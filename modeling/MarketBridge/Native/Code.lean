import MarketBridge.Journal
import MarketBridge.Native.Symbol

/-!
# `Native.Code` — engine code on the far side of the boundary

`NativeCode` is what the symbols of a library do: constructors that may return null and operations
that always answer. An `EngineModule` is code inside the program, whose operations may also fail
and then leave warnings of their own. Both are records of functions on states, `ε` for engines and
`β` for backtests, and both are only ever entered through the operations of this file, each of which
leaves its call in the journal.
-/

namespace MarketBridge

/-- The behaviour of a library's symbols. -/
structure NativeCode (ε β : Type) where
  site : Site
  newEngine : UInt64 → Option ε
  engine : (call : EngineCall) → ε → call.Answer × ε
  newBacktest : BacktestParams → Option β
  backtest : (call : BacktestCall) → β → call.Answer × β

namespace NativeCode

variable {ε β : Type}

/-- Enters the engine constructor. -/
def makeEngine (code : NativeCode ε β) (capacity : UInt64) : Op Unit (Option ε) := do
  Op.emit (.native code.site (.engineNew capacity))
  return code.newEngine capacity

/-- Enters an operation of an engine. -/
def callEngine (code : NativeCode ε β) (call : EngineCall) : Op ε call.Answer :=
  fun s =>
    let (answer, s') := code.engine call s
    ⟨answer, s', [.native code.site (.engine call)]⟩

/-- Enters the backtest constructor. -/
def makeBacktest (code : NativeCode ε β) (params : BacktestParams) : Op Unit (Option β) := do
  Op.emit (.native code.site (.backtestNew params))
  return code.newBacktest params

/-- Enters an operation of a backtest. -/
def callBacktest (code : NativeCode ε β) (call : BacktestCall) : Op β call.Answer :=
  fun s =>
    let (answer, s') := code.backtest call s
    ⟨answer, s', [.native code.site (.backtest call)]⟩

end NativeCode

/-- A library that can be loaded: its symbols, and what they do. -/
structure Library (ε β : Type) where
  symbol : String → Option Address
  code : NativeCode ε β

/-- Why a module failed or refused: the error, and the log lines that finding it left. -/
structure Failure where
  error : Error
  warnings : List Notice
  deriving DecidableEq

namespace Failure

/-- A failure without warnings. -/
def ofError (e : Error) : Failure := ⟨e, []⟩

/-- Takes an answer out of a module: the warnings of a failure are logged and its error stays. -/
def settle {σ α : Type} : Except Failure α → Op σ (Except Error α)
  | .ok a => return .ok a
  | .error f => fun s => ⟨.error f.error, s, f.warnings.map .log⟩

end Failure

/-- Engine code inside the program. `probe` lets a module refuse to be selected. -/
structure EngineModule (ε β : Type) where
  site : Site
  name : String
  probe : Except Failure Unit
  newEngine : UInt64 → Option ε
  engine : (call : EngineCall) → ε → Except Failure call.Answer × ε
  newBacktest : BacktestParams → Option β
  backtest : (call : BacktestCall) → β → Except Failure call.Answer × β

namespace EngineModule

variable {ε β : Type}

/-- Asks the module whether it refuses. -/
def consult (m : EngineModule ε β) : Op Unit (Except Error Unit) :=
  Failure.settle m.probe

/-- Enters the engine constructor. -/
def makeEngine (m : EngineModule ε β) (capacity : UInt64) : Op Unit (Option ε) := do
  Op.emit (.native m.site (.engineNew capacity))
  return m.newEngine capacity

/-- Enters an operation of an engine. -/
def callEngine (m : EngineModule ε β) (call : EngineCall) : Op ε (Except Error call.Answer) :=
  fun s =>
    let (answer, s') := m.engine call s
    let settled := Failure.settle answer s'
    ⟨settled.answer, settled.state, .native m.site (.engine call) :: settled.events⟩

/-- Enters the backtest constructor. -/
def makeBacktest (m : EngineModule ε β) (params : BacktestParams) : Op Unit (Option β) := do
  Op.emit (.native m.site (.backtestNew params))
  return m.newBacktest params

/-- Enters an operation of a backtest. -/
def callBacktest (m : EngineModule ε β) (call : BacktestCall) :
    Op β (Except Error call.Answer) :=
  fun s =>
    let (answer, s') := m.backtest call s
    let settled := Failure.settle answer s'
    ⟨settled.answer, settled.state, .native m.site (.backtest call) :: settled.events⟩

end EngineModule

end MarketBridge
