/-!
# `Signal` — what strategies tell their owner to do

The engine queues signals with a byte for the action. Three bytes are actions; `Action.ofTag?` is
the inverse of `Action.tag` on exactly those.
-/

namespace MarketBridge

/-- What to do with a position. -/
inductive Action
  | buy
  | sell
  | hold
  deriving DecidableEq, Repr

namespace Action

/-- All actions in the order of their tags. -/
def all : List Action :=
  [.buy, .sell, .hold]

/-- The byte that stands for the action in the engine. -/
def tag : Action → UInt8
  | buy => 1
  | sell => 2
  | hold => 3

/-- The action that a byte stands for, if any. -/
def ofTag? (tag : UInt8) : Option Action :=
  if tag = 1 then some .buy
  else if tag = 2 then some .sell
  else if tag = 3 then some .hold
  else none

/-- The action's name. -/
def name : Action → String
  | buy => "BUY"
  | sell => "SELL"
  | hold => "HOLD"

/-- The action as diagnostics show it. -/
def describe : Action → String
  | buy => "Buy"
  | sell => "Sell"
  | hold => "Hold"

theorem ofTag?_tag (a : Action) : ofTag? a.tag = some a := by
  cases a <;> rfl

theorem ofTag?_eq_some_iff {t : UInt8} {a : Action} : ofTag? t = some a ↔ t = a.tag := by
  constructor
  · intro h
    unfold ofTag? at h
    split at h
    · cases h; assumption
    split at h
    · cases h; assumption
    split at h
    · cases h; assumption
    cases h
  · rintro rfl
    exact ofTag?_tag a

end Action

/-- A signal as the engine queues it; its tag may be any byte. -/
structure RawSignal where
  strategy : UInt32
  tag : UInt8
  timestamp : Int64
  deriving DecidableEq, Repr, Inhabited

/-- An empty slot of a signal buffer. -/
def RawSignal.blank : RawSignal := ⟨0, 0, 0⟩

/-- A signal with a known action. -/
structure Signal where
  strategy : UInt32
  action : Action
  timestamp : Int64
  deriving DecidableEq, Repr

/-- What becomes of a signal whose tag is no action: `strict` reports it as an error, `lenient`
takes it for a hold. -/
inductive DecodePolicy
  | strict
  | lenient
  deriving DecidableEq, Repr

/-- The policy as diagnostics show it. -/
def DecodePolicy.describe : DecodePolicy → String
  | strict => "Strict"
  | lenient => "Lenient"

end MarketBridge
