import MarketBridge.Handle
import MarketBridge.Native.Code

/-!
# `Backend` — the two ways to reach engine code

Through a symbol table, answers are raw: a null constructor and a zero id are refusals, and a symbol
that the library lacks fails the one call that needs it. Through a module inside the program,
answers arrive as they are. `EngineLink` and `BacktestLink` are a live engine or backtest together
with the way its calls travel; `EngineLink.call` and `BacktestLink.call` are all that the rest of
the library knows of the difference.
-/

namespace MarketBridge

/-- What the engine wrapper is called in errors. -/
def engineLabel : String := "hquant engine"

/-- What the backtest wrapper is called in errors. -/
def backtestLabel : String := "futures backtest"

/-- Engine code behind a table of symbols. `dynamic` tells a loaded library from linked code. -/
structure TableBackend (ε β : Type) where
  origin : String
  dynamic : Bool
  table : SymbolTable
  code : NativeCode ε β

namespace TableBackend

variable {ε β : Type}

/-- The error of a call that needs a symbol which the library lacks. -/
def missing (s : OptionalSymbol) : Error :=
  .libraryResolution none (.missingSymbol s.name)

/-- Runs `op` if the symbol that it needs, if any, is there. -/
def needing {σ α : Type} (b : TableBackend ε β) (symbol : Option OptionalSymbol)
    (op : Op σ (Except Error α)) : Op σ (Except Error α) :=
  match symbol with
  | none => op
  | some s => if b.table.has s then op else return .error (missing s)

/-- An id that the engine gave out; zero is a refusal. -/
def accepted (id : UInt32) (fault : ParameterFault) : Except Error UInt32 :=
  if id = 0 then .error (.invalidParameter fault) else .ok id

/-- An engine call through the table. A library without a length symbol is asked for its close
column instead, and the length is the one that the column states. -/
def engineCall (b : TableBackend ε β) : (call : EngineCall) → Op ε (Except Error call.Answer)
  | .addIndicator spec => b.needing spec.symbol? do
      let id ← b.code.callEngine (.addIndicator spec)
      return accepted id (.rejectedIndicator spec)
  | .addStrategy name text => do
      let id ← b.code.callEngine (.addStrategy name text)
      return accepted id (.rejectedStrategy name)
  | .pushBar bar => do
      b.code.callEngine (.pushBar bar)
      return .ok ()
  | .updateLastBar bar => do
      b.code.callEngine (.updateLastBar bar)
      return .ok ()
  | .indicatorLast id => do
      let raw ← b.code.callEngine (.indicatorLast id)
      return .ok raw
  | .len =>
    if b.table.has .len then do
      let n ← b.code.callEngine .len
      return .ok n
    else do
      let column ← b.code.callEngine (.column .close)
      return .ok column.len
  | .signalsLen => do
      let n ← b.code.callEngine .signalsLen
      return .ok n
  | .pollSignals slots => do
      let poll ← b.code.callEngine (.pollSignals slots)
      return .ok poll
  | .column field => b.needing field.symbol? do
      let column ← b.code.callEngine (.column field)
      return .ok column
  | .timestampColumn => b.needing (some .timestampColumn) do
      let column ← b.code.callEngine .timestampColumn
      return .ok column

/-- A backtest call through the table. -/
def backtestCall (b : TableBackend ε β) (call : BacktestCall) :
    Op β (Except Error call.Answer) := do
  let answer ← b.code.callBacktest call
  return .ok answer

end TableBackend

/-- A way to reach engine code. -/
inductive Backend (ε β : Type)
  | table (b : TableBackend ε β)
  | inProcess (m : EngineModule ε β)

/-- A live engine, and how its calls travel. -/
inductive EngineLink (ε β : Type)
  | table (b : TableBackend ε β) (handle : Handle ε)
  | inProcess (m : EngineModule ε β) (engine : ε)

/-- A live backtest, and how its calls travel. -/
inductive BacktestLink (ε β : Type)
  | table (b : TableBackend ε β) (handle : Handle β)
  | inProcess (m : EngineModule ε β) (backtest : β)

variable {ε β : Type}

namespace EngineLink

/-- Sends a call to the engine. -/
def call (c : EngineCall) : Op (EngineLink ε β) (Except Error c.Answer)
  | .table b handle =>
    match handle.pointer with
    | .error e => ⟨.error e, .table b handle, []⟩
    | .ok s =>
      let o := b.engineCall c s
      ⟨o.answer, .table b { handle with target := some o.state }, o.events⟩
  | .inProcess m s =>
    let o := m.callEngine c s
    ⟨o.answer, .inProcess m o.state, o.events⟩

/-- What dropping the engine leaves in the journal. -/
def drop : EngineLink ε β → List Event
  | .table _ handle => handle.drop
  | .inProcess m _ => [.native m.site .engineFree]

end EngineLink

namespace BacktestLink

/-- Sends a call to the backtest. -/
def call (c : BacktestCall) : Op (BacktestLink ε β) (Except Error c.Answer)
  | .table b handle =>
    match handle.pointer with
    | .error e => ⟨.error e, .table b handle, []⟩
    | .ok s =>
      let o := b.backtestCall c s
      ⟨o.answer, .table b { handle with target := some o.state }, o.events⟩
  | .inProcess m s =>
    let o := m.callBacktest c s
    ⟨o.answer, .inProcess m o.state, o.events⟩

/-- What dropping the backtest leaves in the journal. -/
def drop : BacktestLink ε β → List Event
  | .table _ handle => handle.drop
  | .inProcess m _ => [.native m.site .backtestFree]

end BacktestLink

namespace Backend

/-- How calls travel. -/
def kind : Backend ε β → BackendKind
  | table _ => .dylib
  | inProcess _ => .inProcess

/-- Where the code comes from: a library path or the name of a module. -/
def origin : Backend ε β → String
  | table b => b.origin
  | inProcess m => m.name

/-- The backend as diagnostics show it. -/
def describe : Backend ε β → String
  | table b =>
    Text.record "AbiBackend" [("origin", Text.quote b.origin), ("dynamic", toString b.dynamic)]
  | inProcess m => Text.record "InProcessBackend" [("module", Text.quote m.name)]

/-- Makes an engine; null is a failed allocation. -/
def createEngine (capacity : UInt64) : Backend ε β → Op Unit (Except Error (EngineLink ε β))
  | table b => do
    let raw ← b.code.makeEngine capacity
    let free := fun _ => [Event.native b.code.site .engineFree]
    match ← Handle.acquire raw free engineLabel capacity with
    | .error e => return .error e
    | .ok handle => return .ok (.table b handle)
  | inProcess m => do
    match ← m.makeEngine capacity with
    | none => return .error (.allocation engineLabel capacity)
    | some engine => return .ok (.inProcess m engine)

/-- Makes a backtest; null means that the engine refuses the parameters. -/
def createBacktest (params : BacktestParams) :
    Backend ε β → Op Unit (Except Error (BacktestLink ε β))
  | table b => do
    let raw ← b.code.makeBacktest params
    let free := fun _ => [Event.native b.code.site .backtestFree]
    match ← Handle.acquire raw free backtestLabel 0 with
    | .error _ => return .error (.invalidParameter (.rejectedBacktest params))
    | .ok handle => return .ok (.table b handle)
  | inProcess m => do
    match ← m.makeBacktest params with
    | none => return .error (.invalidParameter (.rejectedBacktest params))
    | some backtest => return .ok (.inProcess m backtest)

end Backend

/-- A backend together with the policy that everything made from it inherits. -/
structure Bridge (ε β : Type) where
  backend : Backend ε β
  decode : DecodePolicy

/-- The bridge as diagnostics show it. -/
def Bridge.describe (bridge : Bridge ε β) : String :=
  Text.record "Bridge"
    [("backend", bridge.backend.describe), ("decode", bridge.decode.describe)]

end MarketBridge
