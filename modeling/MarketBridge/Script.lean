import MarketBridge.Native.Code

/-!
# `Script` — an engine whose answers are written down beforehand

A script lists what an engine answers, call by call. Every list is used up from the front, and after
its end a plain default answers. Each engine made from a script starts with all of its lists, so the
script itself is the state of a scripted engine.
-/

namespace MarketBridge

/-- A kind of call that a scripted module can be told to fail. -/
inductive Method
  | addIndicator
  | addStrategy
  | pushBar
  | updateLastBar
  | indicatorLast
  | len
  | signalsLen
  | pollSignals
  | column
  | timestampColumn
  | applySignal
  | onPrice
  | result
  deriving DecidableEq, Repr

namespace Method

/-- The method that an engine call belongs to. -/
def ofEngineCall : EngineCall → Method
  | .addIndicator _ => addIndicator
  | .addStrategy _ _ => addStrategy
  | .pushBar _ => pushBar
  | .updateLastBar _ => updateLastBar
  | .indicatorLast _ => indicatorLast
  | .len => len
  | .signalsLen => signalsLen
  | .pollSignals _ => pollSignals
  | .column _ => column
  | .timestampColumn => timestampColumn

/-- The method that a backtest call belongs to. -/
def ofBacktestCall : BacktestCall → Method
  | .applySignal _ _ _ => applySignal
  | .onPrice _ => onPrice
  | .result _ => result

end Method

/-- One answer to a poll: how many signals to move at most, and the count to report. -/
structure PollLine where
  give : UInt64
  report : UInt64
  deriving DecidableEq, Repr

/-- What a scripted engine, and a scripted backtest, will answer. -/
structure Script where
  name : String
  probe : Except Failure Unit
  makesEngines : Bool
  makesBacktests : Bool
  ids : List UInt32
  queue : List RawSignal
  signalsLen : List UInt64
  polls : List PollLine
  indicators : List RawIndicator
  len : UInt64
  columns : Field → Option (Column Double)
  timestamps : Option (Column Int64)
  results : List RawResult
  failure : Method → Option Failure

namespace Script

/-- A script that leaves everything to the defaults. -/
def plain : Script where
  name := "scripted"
  probe := .ok ()
  makesEngines := true
  makesBacktests := true
  ids := []
  queue := []
  signalsLen := []
  polls := []
  indicators := []
  len := 0
  columns := fun _ => none
  timestamps := none
  results := []
  failure := fun _ => none

/-- A column without storage whose numbers make no sense. -/
def nullColumn {α : Type} : Column α :=
  ⟨none, 3, 7⟩

/-- The next id. -/
def nextId (s : Script) : UInt32 × Script :=
  match s.ids with
  | [] => (1, s)
  | id :: rest => (id, { s with ids := rest })

/-- The next queue length. -/
def nextLength (s : Script) : UInt64 × Script :=
  match s.signalsLen with
  | [] => (UInt64.ofNat s.queue.length, s)
  | n :: rest => (n, { s with signalsLen := rest })

/-- The next poll into `slots` slots. -/
def nextPoll (s : Script) (slots : UInt64) : Poll × Script :=
  match s.polls with
  | [] =>
    let written := s.queue.take slots.toNat
    (⟨written, UInt64.ofNat written.length⟩, { s with queue := s.queue.drop slots.toNat })
  | line :: rest =>
    let moved := (min line.give slots).toNat
    (⟨s.queue.take moved, line.report⟩, { s with polls := rest, queue := s.queue.drop moved })

/-- The next backtest result. -/
def nextResult (s : Script) : RawResult × Script :=
  match s.results with
  | [] => (⟨0.0, 0.0, 0.0, 0.0, 0⟩, s)
  | r :: rest => (r, { s with results := rest })

/-- Answers an engine call. -/
def answer : (call : EngineCall) → Script → call.Answer × Script
  | .addIndicator _, s => s.nextId
  | .addStrategy _ _, s => s.nextId
  | .pushBar _, s => ((), s)
  | .updateLastBar _, s => ((), s)
  | .indicatorLast id, s => ((s.indicators[id.toNat]?).getD ⟨0, 0.0, 0.0, 0.0⟩, s)
  | .len, s => (s.len, s)
  | .signalsLen, s => s.nextLength
  | .pollSignals slots, s => s.nextPoll slots
  | .column field, s => ((s.columns field).getD nullColumn, s)
  | .timestampColumn, s => (s.timestamps.getD nullColumn, s)

/-- Answers a backtest call. -/
def answerBacktest : (call : BacktestCall) → Script → call.Answer × Script
  | .applySignal _ _ _, s => ((), s)
  | .onPrice _, s => ((), s)
  | .result _, s => s.nextResult

/-- The scripted engine as the code of a library. -/
def code (s : Script) : NativeCode Script Script where
  site := .scripted
  newEngine := fun _ => if s.makesEngines then some s else none
  engine := answer
  newBacktest := fun _ => if s.makesBacktests then some s else none
  backtest := answerBacktest

/-- Fails a call if the script says so, and answers it otherwise. -/
def failing {α : Type} (s : Script) (m : Method) (answered : α × Script) :
    Except Failure α × Script :=
  match s.failure m with
  | some f => (.error f, s)
  | none => (.ok answered.1, answered.2)

/-- The scripted engine as a module inside the program. -/
def engineModule (s : Script) : EngineModule Script Script where
  site := .scripted
  name := s.name
  probe := s.probe
  newEngine := fun _ => if s.makesEngines then some s else none
  engine := fun call e => e.failing (.ofEngineCall call) (answer call e)
  newBacktest := fun _ => if s.makesBacktests then some s else none
  backtest := fun call b => b.failing (.ofBacktestCall call) (answerBacktest call b)

end Script

end MarketBridge
