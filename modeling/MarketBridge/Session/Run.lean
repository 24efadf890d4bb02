import MarketBridge.Session.Slots
import MarketBridge.Session.Step

/-!
# `Session.Run` — carrying out the steps of a session

`Session.step` carries out one step as an operation on the session; `Session.advance` also writes
the events of the step into the session's journal, from which the counters and the calls of scripted
engines are read. When a session ends, the engines are dropped in the order of their places, then
the backtests.
-/

namespace MarketBridge

/-- The state of a session. `callsShown` counts the scripted calls that have been shown. -/
structure Session (ε β : Type) where
  host : Host ε β
  bridge : Bridge ε β
  engines : Slots (Engine ε β)
  backtests : Slots (Backtest ε β)
  buffer : List Signal
  journal : List Event
  callsShown : Nat

namespace Session

variable {ε β : Type}

/-- A session in which nothing has happened. -/
def start (host : Host ε β) (bridge : Bridge ε β) : Session ε β :=
  ⟨host, bridge, .empty, .empty, [], [], 0⟩

/-! ## Engines -/

/-- Runs an operation on an engine. -/
def onEngine {α : Type} (slot : Nat) (e : Engine ε β) (op : Op (Engine ε β) α) :
    Op (Session ε β) α :=
  fun s =>
    let o := op e
    ⟨o.answer, { s with engines := s.engines.set slot o.state }, o.events⟩

/-- Pushes bars that stay at the given closes, one time unit apart. The first error is the answer,
and the bars after it are pushed all the same. -/
def pushCloses (timestamp : Int64) : List Double → Op (Engine ε β) (Except Error Unit)
  | [] => return .ok ()
  | close :: rest => do
    let first ← Engine.pushBar (.flat timestamp close)
    let others ← pushCloses (timestamp + 1) rest
    match first with
    | .error e => return .error e
    | .ok () => return others

/-- Carries out a step on the engine `e`. -/
def engineStep (slot : Nat) (e : Engine ε β) : EngineStep → Op (Session ε β) Answer
  | .close => do
    onEngine slot e Engine.close
    return .done
  | .isClosed => return .flag e.isClosed
  | .capacity => return .number e.capacity
  | .kind => return .text e.kind.name
  | .describe => return .text e.describe
  | .len => return .ofExcept .number (← onEngine slot e Engine.len)
  | .isEmpty => return .ofExcept .flag (← onEngine slot e Engine.isEmpty)
  | .push bar => return .ofExcept (fun _ => .done) (← onEngine slot e (Engine.pushBar bar))
  | .update bar => return .ofExcept (fun _ => .done) (← onEngine slot e (Engine.updateLastBar bar))
  | .pushCloses timestamp closes =>
    return .ofExcept (fun _ => .done) (← onEngine slot e (pushCloses timestamp closes))
  | .addIndicator spec =>
    return .ofExcept (fun id => .number id.toUInt64) (← onEngine slot e (Engine.addIndicator spec))
  | .addRsi period =>
    return .ofExcept (fun id => .number id.toUInt64) (← onEngine slot e (Engine.addRsi period))
  | .addStrategy name text =>
    return .ofExcept (fun id => .number id.toUInt64)
      (← onEngine slot e (Engine.addStrategy name text))
  | .indicatorLast id => return .ofExcept .indicator (← onEngine slot e (Engine.indicatorLast id))
  | .signalsLen => return .ofExcept .number (← onEngine slot e Engine.signalsLen)
  | .poll => return .ofExcept .signals (← onEngine slot e Engine.pollSignals)
  | .drain => do
    let (answer, buffer) ← onEngine slot e (Engine.drainSignalsInto (← Op.get).buffer)
    Op.modify fun s => { s with buffer }
    return .drained answer buffer
  | .raw field => return .ofExcept .rawFloats (← onEngine slot e (Engine.rawView field))
  | .ordered field => return .ofExcept .orderedFloats (← onEngine slot e (Engine.orderedView field))
  | .list field => return .ofExcept .floats (← onEngine slot e (Engine.orderedList field))
  | .timestampsRaw => return .ofExcept .rawTimes (← onEngine slot e Engine.timestampRawView)
  | .timestampsOrdered =>
    return .ofExcept .orderedTimes (← onEngine slot e Engine.timestampOrderedView)

/-- Leaves the given events. -/
def emitAll (events : List Event) : Op (Session ε β) Unit :=
  fun s => ⟨(), s, events⟩

/-- Puts a new engine at a place if it was made; what was there before is dropped after that. -/
def placeEngine (slot : Nat) (made : Except Error (Engine ε β)) : Op (Session ε β) Answer :=
  match made with
  | .error e => return .failed e
  | .ok e => do
    let before := (← Op.get).engines.get? slot
    Op.modify fun s => { s with engines := s.engines.set slot e }
    emitAll (before.elim [] Engine.drop)
    return .done

/-! ## Backtests -/

/-- Runs an operation on a backtest. -/
def onBacktest {α : Type} (slot : Nat) (b : Backtest ε β) (op : Op (Backtest ε β) α) :
    Op (Session ε β) α :=
  fun s =>
    let o := op b
    ⟨o.answer, { s with backtests := s.backtests.set slot o.state }, o.events⟩

/-- Carries out a step on the backtest `b`. -/
def backtestStep (slot : Nat) (b : Backtest ε β) : BacktestStep → Op (Session ε β) Answer
  | .close => do
    onBacktest slot b Backtest.close
    return .done
  | .isClosed => return .flag b.isClosed
  | .kind => return .text b.kind.name
  | .describe => return .text b.describe
  | .params => return .params b.params
  | .applySignal text price margin =>
    return .ofExcept (fun _ => .done)
      (← onBacktest slot b (Backtest.applySignal text price margin))
  | .apply action price margin =>
    return .ofExcept (fun _ => .done) (← onBacktest slot b (Backtest.apply action price margin))
  | .onPrice price =>
    return .ofExcept (fun _ => .done) (← onBacktest slot b (Backtest.onPrice price))
  | .result price => return .ofExcept .result (← onBacktest slot b (Backtest.result price))

/-- Puts a new backtest at a place if it was made; what was there before is dropped after that. -/
def placeBacktest (slot : Nat) (made : Except Error (Backtest ε β)) : Op (Session ε β) Answer :=
  match made with
  | .error e => return .failed e
  | .ok b => do
    let before := (← Op.get).backtests.get? slot
    Op.modify fun s => { s with backtests := s.backtests.set slot b }
    emitAll (before.elim [] Backtest.drop)
    return .done

/-! ## Whole sessions -/

/-- The calls of scripted engines that have not been shown yet. -/
def freshCalls (s : Session ε β) : List NativeCall :=
  (callsAt .scripted s.journal).drop s.callsShown

/-- Shows the fresh calls. -/
def showCalls : Op (Session ε β) (List NativeCall) := do
  let fresh := (← Op.get).freshCalls
  Op.modify fun s => { s with callsShown := s.callsShown + fresh.length }
  return fresh

/-- Carries out a step. -/
def step : Step → Op (Session ε β) Answer
  | .newEngine slot capacity => do
    placeEngine slot (← Op.lift (Engine.create (← Op.get).bridge capacity))
  | .newEngineFromEnvironment slot capacity => do
    placeEngine slot (← Op.lift (Engine.ofEnvironment (← Op.get).host capacity))
  | .dropEngine slot => do
    match (← Op.get).engines.get? slot with
    | none => return .flag false
    | some e =>
      Op.modify fun s => { s with engines := s.engines.erase slot }
      emitAll e.drop
      return .flag true
  | .engine slot step => do
    match (← Op.get).engines.get? slot with
    | none => return .noEngine
    | some e => engineStep slot e step
  | .newBacktest slot params => do
    placeBacktest slot (← Op.lift (Backtest.create (← Op.get).bridge params))
  | .newBacktestFromEnvironment slot params => do
    placeBacktest slot (← Op.lift (Backtest.ofEnvironment (← Op.get).host params))
  | .dropBacktest slot => do
    match (← Op.get).backtests.get? slot with
    | none => return .flag false
    | some b =>
      Op.modify fun s => { s with backtests := s.backtests.erase slot }
      emitAll b.drop
      return .flag true
  | .backtest slot step => do
    match (← Op.get).backtests.get? slot with
    | none => return .noBacktest
    | some b => backtestStep slot b step
  | .buffer => return .signals (← Op.get).buffer
  | .clearBuffer => do
    Op.modify fun s => { s with buffer := [] }
    return .done
  | .calls => return .calls (← showCalls)
  | .counters => return .counters (.ofEvents (← Op.get).journal)

/-- Runs an operation and writes its events into the journal. -/
def advance {α : Type} (op : Op (Session ε β) α) (s : Session ε β) : α × Session ε β :=
  let o := op s
  (o.answer, { o.state with journal := o.state.journal ++ o.events })

/-- Carries out steps one after another. -/
def run : List Step → Session ε β → List Answer × Session ε β
  | [], s => ([], s)
  | next :: rest, s =>
    let (answer, s') := advance (step next) s
    let (answers, s'') := run rest s'
    (answer :: answers, s'')

/-- Drops all engines and then all backtests. -/
def finish : Op (Session ε β) Unit := fun s =>
  ⟨(), { s with engines := .empty, backtests := .empty },
    s.engines.toList.flatMap Engine.drop ++ s.backtests.toList.flatMap Backtest.drop⟩

end Session

end MarketBridge
