import MarketBridge.Backend
import MarketBridge.Drain
import MarketBridge.Validation

/-!
# `Engine` — the owner of one native engine

An engine is open until it is closed; closing frees the native engine once, and after that every
call fails with the same error. Arguments are checked before the engine is entered, answers are
decoded after. Each operation that reaches the engine makes exactly one native call, a drain up to
two.
-/

namespace MarketBridge

/-- An owned engine. `link` is there while it is open. -/
structure Engine (ε β : Type) where
  link : Option (EngineLink ε β)
  kind : BackendKind
  decode : DecodePolicy
  capacity : UInt64

namespace Engine

variable {ε β : Type}

/-! ## Making and closing -/

/-- Makes an engine of the given capacity, which must not be zero. -/
def create (bridge : Bridge ε β) (capacity : UInt64) :
    Op Unit (Except Error (Engine ε β)) :=
  if capacity = 0 then return .error (.allocation engineLabel capacity)
  else do
    match ← bridge.backend.createEngine capacity with
    | .error e => return .error e
    | .ok link =>
      Op.log (.engineCreated bridge.backend.kind capacity)
      return .ok ⟨some link, bridge.backend.kind, bridge.decode, capacity⟩

/-- Whether the engine has been closed. -/
def isClosed (e : Engine ε β) : Bool :=
  e.link.isNone

/-- Frees the native engine unless that has been done. -/
def close : Op (Engine ε β) Unit :=
  fun e =>
    match e.link with
    | some link =>
      ⟨(), { e with link := none }, link.drop ++ [.log (.engineClosed e.kind)]⟩
    | none => ⟨(), e, []⟩

/-- What dropping the engine leaves in the journal. -/
def drop (e : Engine ε β) : List Event :=
  match e.link with
  | some link => link.drop
  | none => []

/-- The engine as diagnostics show it. -/
def describe (e : Engine ε β) : String :=
  Text.record "HQuant"
    [("backend", e.kind.describe), ("capacity", toString e.capacity),
      ("closed", toString e.isClosed)]

/-! ## Calls -/

/-- Sends a call to the native engine if it is open. -/
def invoke (c : EngineCall) : Op (Engine ε β) (Except Error c.Answer) :=
  fun e =>
    match e.link with
    | none => ⟨.error (.precondition engineLabel), e, []⟩
    | some link =>
      let o := EngineLink.call c link
      ⟨o.answer, { e with link := some o.state }, o.events⟩

/-- Keeps an indicator up to date from now on; answers its id. -/
def addIndicator (spec : IndicatorSpec) : Op (Engine ε β) (Except Error UInt32) :=
  match spec.validate with
  | .error e => return .error e
  | .ok () => invoke (.addIndicator spec)

/-- Keeps the relative strength index of the given period. -/
def addRsi (period : UInt64) : Op (Engine ε β) (Except Error UInt32) :=
  addIndicator (.rsi period)

/-- Has the engine compile and run a strategy; answers its id. -/
def addStrategy (name text : String) : Op (Engine ε β) (Except Error UInt32) :=
  invoke (.addStrategy name text)

/-- Appends a bar. -/
def pushBar (bar : Bar) : Op (Engine ε β) (Except Error Unit) :=
  invoke (.pushBar bar)

/-- Replaces the newest bar. -/
def updateLastBar (bar : Bar) : Op (Engine ε β) (Except Error Unit) :=
  invoke (.updateLastBar bar)

/-- The number of bars held. -/
def len : Op (Engine ε β) (Except Error UInt64) :=
  invoke .len

/-- Whether no bars are held. -/
def isEmpty : Op (Engine ε β) (Except Error Bool) := do
  let answer ← len
  return answer.map (· == 0)

/-- The latest value of an indicator. -/
def indicatorLast (id : UInt32) : Op (Engine ε β) (Except Error Indicator) := do
  let answer ← invoke (.indicatorLast id)
  return answer.bind Indicator.ofRaw

/-- The number of queued signals. -/
def signalsLen : Op (Engine ε β) (Except Error UInt64) :=
  invoke .signalsLen

/-! ## Signals -/

/-- Empties the queue. -/
def drain : Op (Engine ε β) (Except Error Batch) := do
  Batch.drain invoke (← Op.get).decode

/-- Empties the queue and hands the signals over, oldest first. -/
def pollSignals : Op (Engine ε β) (Except Error (List Signal)) := do
  let answer ← drain
  return answer.bind Batch.signals

/-- Empties the queue onto the end of `buffer`; answers the count and the buffer. Signals with a
known tag are appended also when the answer is an error. -/
def drainSignalsInto (buffer : List Signal) :
    Op (Engine ε β) (Except Error UInt64 × List Signal) := do
  match ← drain with
  | .error e => return (.error e, buffer)
  | .ok batch => return (batch.count, buffer ++ batch.accepted)

/-! ## Views -/

/-- The whole ring of a field. -/
def rawView (field : Field) : Op (Engine ε β) (Except Error (RawView Double)) := do
  let answer ← invoke (.column field)
  return answer.bind RawView.ofColumn

/-- The values of a field in time order; nothing if the look for them overflowed, which stops the
program. -/
def orderedView (field : Field) :
    Op (Engine ε β) (Except Error (Option (OrderedView Double))) := do
  let answer ← rawView field
  return answer.map RawView.ordered

/-- A copy of the values of a field in time order, if there is an ordered view. -/
def orderedList (field : Field) : Op (Engine ε β) (Except Error (Option (List Double))) := do
  let answer ← orderedView field
  return answer.map (Option.map OrderedView.toList)

/-- The whole ring of timestamps. -/
def timestampRawView : Op (Engine ε β) (Except Error (RawView Int64)) := do
  let answer ← invoke .timestampColumn
  return answer.bind RawView.ofColumn

/-- The timestamps in time order, like `orderedView`. -/
def timestampOrderedView : Op (Engine ε β) (Except Error (Option (OrderedView Int64))) := do
  let answer ← timestampRawView
  return answer.map RawView.ordered

end Engine

end MarketBridge
