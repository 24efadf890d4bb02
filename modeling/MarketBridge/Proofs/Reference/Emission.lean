import MarketBridge.Proofs.Reference.History

/-!
# `Reference.Emission` — which signals an engine queues, and when

For each bar that is pushed, and for each update of a bar that is there, every registered strategy
in turn gives at most one signal, stamped with the timestamp of that bar. `Emission` follows a
session and collects those signals from the arguments of its steps alone; `Engine.Emits` says that
an engine queues just these (`Engine.Emits.change`, `Engine.Emits.addStrategy`).
-/

namespace MarketBridge.Reference

/-- The signals that the strategies give for a bar. -/
def signalsFor (strategies : List Strategy) (bar : Bar) : List RawSignal :=
  strategies.filterMap fun strategy =>
    (strategy.tag? bar.close).map fun tag => ⟨strategy.id, tag, bar.timestamp⟩

/-- What the signals of a session depend on, and all signals up to now. -/
structure Emission where
  hasBars : Bool
  strategies : List Strategy
  emitted : List RawSignal

namespace Emission

/-- Before the first step. -/
def none : Emission := ⟨false, [], []⟩

/-- Every strategy sees a bar. -/
def see (x : Emission) (bar : Bar) : Emission :=
  { x with emitted := x.emitted ++ signalsFor x.strategies bar }

/-- A pushed bar is seen, an updated one if there was one to update. -/
def change (x : Emission) : BarChange → Emission
  | .push bar => { x with hasBars := true }.see bar
  | .update bar => if x.hasBars then x.see bar else x

/-- A strategy text that is none registers nothing. -/
def addStrategy (x : Emission) (text : String) : Emission :=
  match parseRules? text with
  | some rules =>
    { x with strategies := x.strategies ++ [⟨UInt32.ofNat x.strategies.length + 1, rules⟩] }
  | .none => x

end Emission

/-! ## The queue of an engine -/

namespace Engine

variable {s : Engine} {capacity : Nat} {history : List Bar}

theorem evaluate_strategies (s : Engine) : s.evaluate.strategies = s.strategies := by
  unfold evaluate
  split <;> rfl

/-- Evaluation queues the signals for the newest bar. -/
theorem evaluate_queue {earlier : List Bar} {bar : Bar}
    (h : s.evaluate.Records capacity (earlier ++ [bar])) :
    s.evaluate.queue = s.queue ++ signalsFor s.strategies bar := by
  have hclose := h.column .close
  have htimes := h.timestamps
  rw [evaluate_ring, List.map_append] at hclose
  rw [evaluate_timestamps, List.map_append] at htimes
  -- evaluation changes no ring, so before it the newest values were already those of the bar
  have hnewest : s.close.fromEnd? 0 = some bar.close := hclose.newest
  have hstamp : s.timestamps.fromEnd? 0 = some bar.timestamp := htimes.newest
  unfold evaluate
  rw [hnewest, hstamp]
  rfl

/-- The engine holds the bars of `history` and has queued, after `taken`, what the session is to
have emitted. -/
structure Emits (s : Engine) (capacity : Nat) (history : List Bar) (taken : List RawSignal)
    (x : Emission) : Prop where
  records : s.Records capacity history
  hasBars : x.hasBars = !history.isEmpty
  strategies : s.strategies = x.strategies
  account : taken ++ s.queue = x.emitted

variable {taken : List RawSignal} {x : Emission}

theorem emits_new {capacity : UInt64} (h : Engine.new? capacity = some s) :
    s.Emits capacity.toNat [] [] .none := by
  refine ⟨records_new h, rfl, ?_, ?_⟩
  all_goals
    unfold new? at h
    split at h
    · cases h
    · cases h
      rfl

theorem Emits.push (h : s.Emits capacity history taken x) (bar : Bar) :
    (s.pushBar bar).Emits capacity (history ++ [bar]) taken (x.change (.push bar)) := by
  have hrecords := h.records.push bar
  have hqueue : (s.pushBar bar).queue = s.queue ++ signalsFor s.strategies bar := by
    unfold pushBar at hrecords ⊢
    exact evaluate_queue hrecords
  have hstrategies : (s.pushBar bar).strategies = s.strategies := evaluate_strategies _
  refine ⟨hrecords, ?_, ?_, ?_⟩
  · show true = !(history ++ [bar]).isEmpty
    simp
  · rw [hstrategies, h.strategies]
    rfl
  · rw [hqueue, ← List.append_assoc, h.account, h.strategies]
    rfl

theorem Emits.update_nil (h : s.Emits capacity [] taken x) (bar : Bar) :
    (s.updateLastBar bar).Emits capacity [] taken (x.change (.update bar)) := by
  have hbars : x.hasBars = false := h.hasBars
  have hsame : s.updateLastBar bar = s := h.records.update_nil bar
  have hunseen : x.change (.update bar) = x := if_neg (by simp [hbars])
  rw [hsame, hunseen]
  exact h

theorem Emits.update_concat {earlier : List Bar} {last : Bar}
    (h : s.Emits capacity (earlier ++ [last]) taken x) (bar : Bar) :
    (s.updateLastBar bar).Emits capacity (earlier ++ [bar]) taken (x.change (.update bar)) := by
  have hrecords := h.records.update_concat bar
  have hlive := h.records.close_len_ne_zero
  have hbars : x.hasBars = true := h.hasBars.trans (by simp)
  have hseen : x.change (.update bar) = x.see bar := if_pos hbars
  have hqueue : (s.updateLastBar bar).queue = s.queue ++ signalsFor s.strategies bar := by
    unfold updateLastBar at hrecords ⊢
    rw [if_neg hlive] at hrecords ⊢
    exact evaluate_queue hrecords
  have hstrategies : (s.updateLastBar bar).strategies = s.strategies := by
    unfold updateLastBar
    rw [if_neg hlive]
    exact evaluate_strategies _
  rw [hseen]
  refine ⟨hrecords, ?_, ?_, ?_⟩
  · show x.hasBars = _
    simp [hbars]
  · rw [hstrategies, h.strategies]
    rfl
  · rw [hqueue, ← List.append_assoc, h.account, h.strategies]
    rfl

/-- A change of the bars queues the signals for the bar that was pushed or updated. -/
theorem Emits.change (h : s.Emits capacity history taken x) (change : BarChange) :
    (change.apply s).Emits capacity (change.record history) taken (x.change change) := by
  cases change with
  | push bar => exact h.push bar
  | update bar =>
    -- whether there is a bar to update is whether the history has a last entry
    cases history using List.reverseRecOn with
    | nil => exact h.update_nil bar
    | append_singleton earlier last =>
      rw [BarChange.record_update_concat]
      exact h.update_concat bar

/-- Registering a strategy queues nothing. -/
theorem Emits.addStrategy (h : s.Emits capacity history taken x) (text : String) :
    (s.addStrategy text).2.Emits capacity history taken (x.addStrategy text) := by
  unfold Engine.addStrategy Emission.addStrategy
  cases parseRules? text with
  | none => exact h
  | some rules =>
    refine ⟨⟨h.records.timestamps, fun field => ?_⟩, h.hasBars, ?_, h.account⟩
    · have hcolumn := h.records.column field
      cases field <;> exact hcolumn
    · rw [← h.strategies]

/-- Taking signals off the front of the queue is accounted for. -/
theorem Emits.take (h : s.Emits capacity history taken x) (n : Nat) :
    { s with queue := s.queue.drop n }.Emits capacity history (taken ++ s.queue.take n) x := by
  refine ⟨⟨h.records.timestamps, fun field => ?_⟩, h.hasBars, h.strategies, ?_⟩
  · have hcolumn := h.records.column field
    cases field <;> exact hcolumn
  · rw [List.append_assoc, List.take_append_drop, h.account]

end Engine

end MarketBridge.Reference
