import MarketBridge.Native.Call
import MarketBridge.Reference.Ring
import MarketBridge.Reference.Strategy

/-!
# `Reference.Engine` — a small engine that keeps the contract

Seven rings of one capacity, a list of indicators, a list of strategies and a signal queue. Every
period indicator is the mean of the last closes; the convergence indicator is the last close, the
one before it and their difference. After each bar, and after each change of the newest bar, every
strategy in turn may queue one signal with that bar's timestamp.
-/

namespace MarketBridge.Reference

/-- The largest capacity that the engine accepts. -/
def maxCapacity : UInt64 := 1048576

/-- The period whose indicator has a kind byte that means nothing. -/
def badKindPeriod : UInt64 := 4242

/-- An indicator of the reference engine. -/
inductive Measure
  | mean (period : UInt64)
  | delta
  | badKind
  deriving DecidableEq

/-- What is computed for an indicator. -/
def Measure.ofSpec : IndicatorSpec → Measure
  | .rsi period | .sma period | .ema period | .stdDev period | .boll period _ =>
    if period = badKindPeriod then .badKind else .mean period
  | .macd _ _ _ => .delta

/-- A strategy with its id. -/
structure Strategy where
  id : UInt32
  rules : List Rule
  deriving DecidableEq

/-- The tag that the strategy asks for at a close. -/
def Strategy.tag? (s : Strategy) (close : Double) : Option UInt8 :=
  s.rules.findSome? (Rule.hit? close)

/-- The state of an engine. -/
structure Engine where
  timestamps : Ring Int64
  opening : Ring Double
  high : Ring Double
  low : Ring Double
  close : Ring Double
  volume : Ring Double
  buyVolume : Ring Double
  measures : List Measure
  strategies : List Strategy
  queue : List RawSignal
  deriving DecidableEq

namespace Engine

/-- An engine without bars, if the capacity is acceptable. -/
def new? (capacity : UInt64) : Option Engine :=
  if capacity = 0 || maxCapacity < capacity then none
  else
    let n := capacity.toNat
    let blank := Ring.empty n (0.0 : Double)
    some ⟨Ring.empty n 0, blank, blank, blank, blank, blank, blank, [], [], []⟩

/-- The ring of a field. -/
def ring (e : Engine) : Field → Ring Double
  | .opening => e.opening
  | .high => e.high
  | .low => e.low
  | .close => e.close
  | .volume => e.volume
  | .buyVolume => e.buyVolume

/-- Queues the signals that the strategies give for the newest bar. -/
def evaluate (e : Engine) : Engine :=
  match e.close.fromEnd? 0, e.timestamps.fromEnd? 0 with
  | some close, some timestamp =>
    let signals := e.strategies.filterMap fun s =>
      (s.tag? close).map fun tag => RawSignal.mk s.id tag timestamp
    { e with queue := e.queue ++ signals }
  | _, _ => e

/-- Appends a bar. -/
def pushBar (e : Engine) (bar : Bar) : Engine :=
  evaluate
    { e with
      timestamps := e.timestamps.push bar.timestamp
      opening := e.opening.push bar.opening
      high := e.high.push bar.high
      low := e.low.push bar.low
      close := e.close.push bar.close
      volume := e.volume.push bar.volume
      buyVolume := e.buyVolume.push bar.buyVolume }

/-- Replaces the newest bar, if there is one. -/
def updateLastBar (e : Engine) (bar : Bar) : Engine :=
  if e.close.len = 0 then e
  else
    evaluate
      { e with
        timestamps := e.timestamps.updateLast bar.timestamp
        opening := e.opening.updateLast bar.opening
        high := e.high.updateLast bar.high
        low := e.low.updateLast bar.low
        close := e.close.updateLast bar.close
        volume := e.volume.updateLast bar.volume
        buyVolume := e.buyVolume.updateLast bar.buyVolume }

/-- Adds an indicator; its id is its place in the list, counted from one. -/
def addMeasure (e : Engine) (m : Measure) : UInt32 × Engine :=
  let measures := e.measures ++ [m]
  (UInt32.ofNat measures.length, { e with measures })

/-- Adds a strategy; a text that is none gets the id zero. -/
def addStrategy (e : Engine) (text : String) : UInt32 × Engine :=
  match parseRules? text with
  | some rules =>
    let id := UInt32.ofNat e.strategies.length + 1
    (id, { e with strategies := e.strategies ++ [⟨id, rules⟩] })
  | none => (0, e)

/-- Not a number. -/
def undefined : Double := ⟨0x7FF8000000000000⟩

/-- The sum of `values`, added from the first on. It starts from minus zero, so that the sum of
nothing but minus zeros is minus zero. -/
def sum (values : List Double) : Double :=
  values.foldl (· + ·) (-0.0)

/-- The newest `period` closes, newest first. -/
def newestCloses (e : Engine) (period : Nat) : List Double :=
  (List.range period).filterMap e.close.fromEnd?

/-- The value of an indicator with all slots but the first undefined. -/
def scalar (a : Double) : RawIndicator :=
  ⟨scalarKind, a, undefined, undefined⟩

/-- The latest value of an indicator. -/
def measure (e : Engine) : Measure → RawIndicator
  | .mean period =>
    if e.close.len < period.toNat then scalar undefined
    else scalar (sum (e.newestCloses period.toNat) / .ofWord period)
  | .delta =>
    match e.close.fromEnd? 0, e.close.fromEnd? 1 with
    | some newest, some previous => ⟨tripleKind, newest, previous, newest - previous⟩
    | _, _ => ⟨tripleKind, undefined, undefined, undefined⟩
  | .badKind => ⟨9, 0.0, undefined, undefined⟩

/-- The latest value of the indicator with an id; an unknown id has an undefined value. -/
def indicatorLast (e : Engine) (id : UInt32) : RawIndicator :=
  if id = 0 then scalar undefined
  else
    match e.measures[id.toNat - 1]? with
    | some m => e.measure m
    | none => scalar undefined

/-- Moves up to `slots` signals out of the queue. -/
def poll (e : Engine) (slots : UInt64) : Poll × Engine :=
  let written := e.queue.take slots.toNat
  (⟨written, UInt64.ofNat written.length⟩, { e with queue := e.queue.drop slots.toNat })

/-- Answers a call. -/
def answer : (call : EngineCall) → Engine → call.Answer × Engine
  | .addIndicator spec, e => e.addMeasure (.ofSpec spec)
  | .addStrategy _ text, e => e.addStrategy text
  | .pushBar bar, e => ((), e.pushBar bar)
  | .updateLastBar bar, e => ((), e.updateLastBar bar)
  | .indicatorLast id, e => (e.indicatorLast id, e)
  | .len, e => (UInt64.ofNat e.close.len, e)
  | .signalsLen, e => (UInt64.ofNat e.queue.length, e)
  | .pollSignals slots, e => e.poll slots
  | .column field, e => ((e.ring field).column, e)
  | .timestampColumn, e => (e.timestamps.column, e)

end Engine

end MarketBridge.Reference
