import MarketBridge.Backend
import MarketBridge.Reference.Backtest
import MarketBridge.Reference.Engine

/-!
# `Reference.Code` — the reference engine behind both kinds of boundary

The same states and answers serve as the code of a library, as a module inside the program, and as
linked code behind a symbol table.
-/

namespace MarketBridge.Reference

/-- The reference engine as the code of a library. -/
def code (site : Site) : NativeCode Engine Backtest where
  site := site
  newEngine := Engine.new?
  engine := Engine.answer
  newBacktest := Backtest.new?
  backtest := Backtest.answer

/-- The answer of the module to a call: the id zero for a strategy is an error, and every other
answer is the engine's. -/
def moduleAnswer : (call : EngineCall) → Engine → Except Failure call.Answer × Engine
  | .addStrategy name text, e =>
    let (id, e') := e.addStrategy text
    ((TableBackend.accepted id (.rejectedStrategy name)).mapError .ofError, e')
  | call, e =>
    let (answer, e') := e.answer call
    (.ok answer, e')

/-- The reference engine as a module inside the program. -/
def engineModule : EngineModule Engine Backtest where
  site := .linked
  name := "reference-engine"
  probe := .ok ()
  newEngine := Engine.new?
  engine := moduleAnswer
  newBacktest := Backtest.new?
  backtest := fun call b =>
    let (answer, b') := b.answer call
    (.ok answer, b')

/-- The names of all twenty-seven symbols. -/
def symbolNames : List String :=
  RequiredSymbol.all.map (·.name) ++ OptionalSymbol.all.map (·.name)

/-- The address of a symbol of the reference engine. -/
def addressOf? (name : String) : Option Address :=
  (symbolNames.idxOf? name).map fun i => UInt64.ofNat (4096 + 16 * i)

/-- The table of all symbols. -/
def fullTable : SymbolTable where
  required := fun s => (addressOf? s.name).getD 0
  optional := fun s => addressOf? s.name

/-- The table of the required symbols only. -/
def coreTable : SymbolTable :=
  fullTable.without OptionalSymbol.all

/-- Linked code behind a table. -/
def linked (table : SymbolTable) : TableBackend Engine Backtest where
  origin := "reference-engine (static)"
  dynamic := false
  table := table
  code := code .linked

/-- A library that exports the named symbols of the reference engine. -/
def library (exports : List String) : Library Engine Backtest where
  symbol := fun name => if name ∈ exports then addressOf? name else none
  code := code .loaded

end MarketBridge.Reference
