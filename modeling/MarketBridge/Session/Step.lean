import MarketBridge.Selector

/-!
# `Session.Step` — what can be asked for in a session, and the answers

A session works on numbered engines and backtests made from one bridge, with one signal buffer for
all engines. Every operation of the library is a step.
-/

namespace MarketBridge

/-- A step on an engine that is there. -/
inductive EngineStep
  | close
  | isClosed
  | capacity
  | kind
  | describe
  | len
  | isEmpty
  | push (bar : Bar)
  | update (bar : Bar)
  | pushCloses (timestamp : Int64) (closes : List Double)
  | addIndicator (spec : IndicatorSpec)
  | addRsi (period : UInt64)
  | addStrategy (name text : String)
  | indicatorLast (id : UInt32)
  | signalsLen
  | poll
  | drain
  | raw (field : Field)
  | ordered (field : Field)
  | list (field : Field)
  | timestampsRaw
  | timestampsOrdered
  deriving DecidableEq

/-- A step on a backtest that is there. -/
inductive BacktestStep
  | close
  | isClosed
  | kind
  | describe
  | params
  | applySignal (text : String) (price margin : Double)
  | apply (action : Action) (price margin : Double)
  | onPrice (price : Double)
  | result (price : Double)
  deriving DecidableEq

/-- A step of a session. The constructors with `FromEnvironment` select their own bridge. -/
inductive Step
  | newEngine (slot : Nat) (capacity : UInt64)
  | newEngineFromEnvironment (slot : Nat) (capacity : UInt64)
  | dropEngine (slot : Nat)
  | engine (slot : Nat) (step : EngineStep)
  | newBacktest (slot : Nat) (params : BacktestParams)
  | newBacktestFromEnvironment (slot : Nat) (params : BacktestParams)
  | dropBacktest (slot : Nat)
  | backtest (slot : Nat) (step : BacktestStep)
  | buffer
  | clearBuffer
  | calls
  | counters
  deriving DecidableEq

/-- How often the linked engine code freed and revalued. -/
structure Counters where
  engineFrees : Nat
  backtestFrees : Nat
  backtestCalls : Nat
  deriving DecidableEq, Repr

namespace Counters

/-- Nothing counted. -/
def zero : Counters := ⟨0, 0, 0⟩

/-- Counts one native call. Acting on a signal revalues once more after it. -/
def count (c : Counters) : NativeCall → Counters
  | .engineFree => { c with engineFrees := c.engineFrees + 1 }
  | .backtestFree => { c with backtestFrees := c.backtestFrees + 1 }
  | .backtest (.applySignal _ _ _) => { c with backtestCalls := c.backtestCalls + 2 }
  | .backtest (.onPrice _) => { c with backtestCalls := c.backtestCalls + 1 }
  | _ => c

/-- Counts the calls among `events` that ran in linked code. -/
def ofEvents (events : List Event) : Counters :=
  (callsAt .linked events).foldl count zero

end Counters

/-- The answer to a step. The ordered views and the copies made of them answer `none` where the look
for the live values overflowed, which stops the program. -/
inductive Answer
  | done
  | flag (value : Bool)
  | number (value : UInt64)
  | text (value : String)
  | signals (value : List Signal)
  | indicator (value : Indicator)
  | result (value : BacktestResult)
  | params (value : BacktestParams)
  | floats (value : Option (List Double))
  | rawFloats (value : RawView Double)
  | rawTimes (value : RawView Int64)
  | orderedFloats (value : Option (OrderedView Double))
  | orderedTimes (value : Option (OrderedView Int64))
  | calls (value : List NativeCall)
  | counters (value : Counters)
  | noEngine
  | noBacktest
  | failed (error : Error)
  | drained (answer : Except Error UInt64) (buffer : List Signal)

/-- The answer of a call that may fail. -/
def Answer.ofExcept {α : Type} (wrap : α → Answer) : Except Error α → Answer
  | .ok a => wrap a
  | .error e => .failed e

end MarketBridge
