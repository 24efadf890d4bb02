import MarketBridge.Proofs.Reference.Opened
import MarketBridge.Proofs.Reference.Ring

/-!
# `Reference.History` — views show the true history of bars

Pushing a bar appends it to the history, updating replaces its last entry. `Engine.Records` says
that all seven rings of an engine hold the columns of one history, each change keeps it
(`Engine.Records.change`), and so every view of the wrapper shows the last bars of that history
(`views_show_the_history`).
-/

namespace MarketBridge.Reference

/-! ## Changes of the bars -/

/-- A call that changes the bars of an engine. -/
inductive BarChange
  | push (bar : Bar)
  | update (bar : Bar)

namespace BarChange

/-- Whether the change appends a bar. -/
def isPush : BarChange → Bool
  | push _ => true
  | update _ => false

/-- The history after the change. -/
def record (history : List Bar) : BarChange → List Bar
  | push bar => history ++ [bar]
  | update bar => if history = [] then [] else history.dropLast ++ [bar]

/-- The history of an engine that went through the changes. -/
def history (changes : List BarChange) : List Bar :=
  changes.foldl record []

/-- The change as a call on a wrapper. -/
def op : BarChange → Op (MarketBridge.Engine Engine Backtest) (Except Error Unit)
  | push bar => MarketBridge.Engine.pushBar bar
  | update bar => MarketBridge.Engine.updateLastBar bar

/-- The wrapper after the changes. -/
def run (changes : List BarChange) (e : MarketBridge.Engine Engine Backtest) :
    MarketBridge.Engine Engine Backtest :=
  changes.foldl (fun e change => (change.op e).state) e

/-- The change inside the engine. -/
def apply (s : Engine) : BarChange → Engine
  | push bar => s.pushBar bar
  | update bar => s.updateLastBar bar

theorem record_update_concat (earlier : List Bar) (last bar : Bar) :
    (update bar).record (earlier ++ [last]) = earlier ++ [bar] := by
  have hlive : earlier ++ [last] ≠ [] := List.concat_ne_nil last earlier
  show (if earlier ++ [last] = [] then [] else (earlier ++ [last]).dropLast ++ [bar]) = _
  rw [if_neg hlive, List.dropLast_concat]

theorem length_record (history : List Bar) (change : BarChange) :
    (change.record history).length = history.length + [change].countP isPush := by
  cases change with
  | push bar => exact List.length_append
  | update bar =>
    cases history using List.reverseRecOn with
    | nil => rfl
    | append_singleton earlier last =>
      rw [record_update_concat, List.length_append, List.length_append]
      rfl

theorem history_append (changes : List BarChange) (change : BarChange) :
    history (changes ++ [change]) = change.record (history changes) := by
  unfold history
  rw [List.foldl_append, List.foldl_cons, List.foldl_nil]

/-- The history has an entry for every push. -/
theorem length_history (changes : List BarChange) :
    (history changes).length = changes.countP isPush := by
  induction changes using List.reverseRecOn with
  | nil => rfl
  | append_singleton changes change ih =>
    rw [history_append, length_record, ih, List.countP_append]

/-- A change of an open wrapper succeeds and changes the engine inside. -/
theorem op_opened (kind : BackendKind) (decode : DecodePolicy) (capacity : UInt64) (s : Engine)
    (change : BarChange) :
    (change.op (opened kind decode capacity s)).answer = .ok () ∧
      (change.op (opened kind decode capacity s)).state =
        opened kind decode capacity (change.apply s) := by
  cases change with
  | push bar =>
    have hcall := invoke_opened kind decode capacity s (c := .pushBar bar) rfl
    exact ⟨congrArg Outcome.answer hcall, congrArg Outcome.state hcall⟩
  | update bar =>
    have hcall := invoke_opened kind decode capacity s (c := .updateLastBar bar) rfl
    exact ⟨congrArg Outcome.answer hcall, congrArg Outcome.state hcall⟩

end BarChange

/-! ## What the rings hold -/

/-- The seven rings hold the columns of one history. -/
structure Engine.Records (s : Engine) (capacity : Nat) (history : List Bar) : Prop where
  timestamps : s.timestamps.Holds capacity (history.map (·.timestamp))
  column (field : Field) : (s.ring field).Holds capacity (history.map (·.get field))

namespace Engine

variable {s : Engine} {capacity : Nat} {history : List Bar}

theorem evaluate_ring (s : Engine) (field : Field) : s.evaluate.ring field = s.ring field := by
  unfold evaluate
  split <;> rfl

theorem evaluate_timestamps (s : Engine) : s.evaluate.timestamps = s.timestamps := by
  unfold evaluate
  split <;> rfl

theorem new?_bounds {capacity : UInt64} (h : Engine.new? capacity = some s) :
    0 < capacity.toNat ∧ capacity.toNat ≤ maxCapacity.toNat := by
  unfold new? at h
  split at h
  · cases h
  case isFalse refused =>
    rw [Bool.or_eq_true, decide_eq_true_eq, decide_eq_true_eq, not_or, UInt64.not_lt] at refused
    obtain ⟨hzero, hsmall⟩ := refused
    have hne : capacity.toNat ≠ 0 := fun zero => hzero (UInt64.toNat_inj.mp zero)
    exact ⟨Nat.pos_of_ne_zero hne, UInt64.le_iff_toNat_le.mp hsmall⟩

theorem records_new {capacity : UInt64} (h : Engine.new? capacity = some s) :
    s.Records capacity.toNat [] := by
  obtain ⟨hpositive, -⟩ := new?_bounds h
  unfold new? at h
  split at h
  · cases h
  · cases h
    refine ⟨Ring.holds_empty hpositive 0, fun field => ?_⟩
    cases field <;> exact Ring.holds_empty hpositive 0.0

theorem Records.push (h : s.Records capacity history) (bar : Bar) :
    (s.pushBar bar).Records capacity (history ++ [bar]) := by
  unfold pushBar
  refine ⟨?_, fun field => ?_⟩
  · rw [evaluate_timestamps, List.map_append]
    exact h.timestamps.push bar.timestamp
  · rw [evaluate_ring, List.map_append]
    have hcolumn := (h.column field).push (bar.get field)
    cases field <;> exact hcolumn

theorem Records.update_nil (h : s.Records capacity []) (bar : Bar) : s.updateLastBar bar = s := by
  have hlen : s.close.len = 0 := (h.column .close).len.trans (Nat.zero_min _)
  unfold updateLastBar
  rw [if_pos hlen]

theorem Records.close_len_ne_zero {earlier : List Bar} {last : Bar}
    (h : s.Records capacity (earlier ++ [last])) : s.close.len ≠ 0 := by
  have hlen := (h.column .close).len
  have hpositive := (h.column .close).positive
  rw [List.length_map, List.length_append, List.length_singleton] at hlen
  show (s.ring .close).len ≠ 0
  omega

theorem Records.update_concat {earlier : List Bar} {last : Bar}
    (h : s.Records capacity (earlier ++ [last])) (bar : Bar) :
    (s.updateLastBar bar).Records capacity (earlier ++ [bar]) := by
  unfold updateLastBar
  rw [if_neg h.close_len_ne_zero]
  refine ⟨?_, fun field => ?_⟩
  · have htimes := h.timestamps
    rw [List.map_append] at htimes
    rw [evaluate_timestamps, List.map_append]
    exact htimes.updateLast bar.timestamp
  · have hcolumn := h.column field
    rw [List.map_append] at hcolumn
    have hupdated := hcolumn.updateLast (bar.get field)
    rw [evaluate_ring, List.map_append]
    cases field <;> exact hupdated

/-- A change of the bars is a change of the history. -/
theorem Records.change (h : s.Records capacity history) (change : BarChange) :
    (change.apply s).Records capacity (change.record history) := by
  cases change with
  | push bar => exact h.push bar
  | update bar =>
    cases history using List.reverseRecOn with
    | nil =>
      show (s.updateLastBar bar).Records capacity []
      rw [h.update_nil bar]
      exact h
    | append_singleton earlier last =>
      rw [BarChange.record_update_concat]
      exact h.update_concat bar

end Engine

/-! ## What the views show -/

/-- A ring view has all slots, and its metadata are those of a ring after so many pushes. -/
structure FitsPushes {α : Type} (view : RawView α) (capacity pushes : Nat) : Prop where
  slots : view.data.size = capacity
  len : view.len.toNat = min pushes capacity
  head : view.head.toNat = pushes % capacity

theorem Ring.Holds.fitsPushes {α : Type} {r : Ring α} {capacity : Nat} {history : List α}
    (h : r.Holds capacity history) (hsmall : capacity + capacity < UInt64.size) :
    FitsPushes r.view capacity history.length :=
  ⟨h.size, h.toNat_len hsmall, h.toNat_head hsmall⟩

/-- Every view of the wrapper succeeds and shows the last `capacity` bars of the history, oldest
first. -/
structure ShowsHistory (e : MarketBridge.Engine Engine Backtest) (capacity : Nat)
    (history : List Bar) : Prop where
  len : ∃ n, e.len.answer = .ok n ∧ n.toNat = min history.length capacity
  list (field : Field) :
    (e.orderedList field).answer = .ok (some ((history.rtake capacity).map (·.get field)))
  ordered (field : Field) : ∃ view, (e.orderedView field).answer = .ok (some view) ∧
    view.toList = (history.rtake capacity).map (·.get field)
  timestamps : ∃ view, e.timestampOrderedView.answer = .ok (some view) ∧
    view.toList = (history.rtake capacity).map (·.timestamp)
  raw (field : Field) : ∃ view, (e.rawView field).answer = .ok view ∧
    FitsPushes view capacity history.length
  rawTimestamps : ∃ view, e.timestampRawView.answer = .ok view ∧
    FitsPushes view capacity history.length

theorem map_rtake {α β : Type} (f : α → β) (xs : List α) (n : Nat) :
    (xs.map f).rtake n = (xs.rtake n).map f := by
  unfold List.rtake
  rw [List.length_map, List.map_drop]

section Views

variable (kind : BackendKind) (decode : DecodePolicy) (stated : UInt64) {s : Engine}
  {capacity : Nat} {history : List Bar}

theorem rawView_opened (h : s.Records capacity history)
    (hsmall : capacity + capacity < UInt64.size) (field : Field) :
    ((opened kind decode stated s).rawView field).answer = .ok (s.ring field).view := by
  unfold MarketBridge.Engine.rawView
  rw [Op.bind_apply, invoke_opened kind decode stated s rfl]
  exact (h.column field).ofColumn hsmall

theorem timestampRawView_opened (h : s.Records capacity history)
    (hsmall : capacity + capacity < UInt64.size) :
    (opened kind decode stated s).timestampRawView.answer = .ok s.timestamps.view := by
  unfold MarketBridge.Engine.timestampRawView
  rw [Op.bind_apply, invoke_opened kind decode stated s rfl]
  exact h.timestamps.ofColumn hsmall

theorem orderedView_opened (h : s.Records capacity history)
    (hsmall : capacity + capacity < UInt64.size) (field : Field) :
    ((opened kind decode stated s).orderedView field).answer =
      .ok (s.ring field).view.ordered :=
  congrArg (Except.map RawView.ordered) (rawView_opened kind decode stated h hsmall field)

/-- The copy is made of the ordered view. -/
theorem orderedList_opened (h : s.Records capacity history)
    (hsmall : capacity + capacity < UInt64.size) {field : Field} {view : OrderedView Double}
    (hview : (s.ring field).view.ordered = some view) :
    ((opened kind decode stated s).orderedList field).answer = .ok (some view.toList) := by
  refine (congrArg (Except.map (Option.map OrderedView.toList))
    (orderedView_opened kind decode stated h hsmall field)).trans ?_
  rw [hview]
  rfl

/-- An engine that records a history shows it. -/
theorem showsHistory_opened (h : s.Records capacity history)
    (hsmall : capacity + capacity < UInt64.size) :
    ShowsHistory (opened kind decode stated s) capacity history := by
  have hordered : ∀ field, ∃ view, (s.ring field).view.ordered = some view ∧
      view.toList = (history.rtake capacity).map (·.get field) := by
    intro field
    obtain ⟨view, hview, hlist⟩ := (h.column field).exists_ordered hsmall
    exact ⟨view, hview, hlist.trans (map_rtake _ _ _)⟩
  have hraw := rawView_opened kind decode stated h hsmall
  have htimes := timestampRawView_opened kind decode stated h hsmall
  have hview := orderedView_opened kind decode stated h hsmall
  have hpushes : ∀ field, FitsPushes (s.ring field).view capacity history.length := fun field => by
    have hfits := (h.column field).fitsPushes hsmall
    rwa [List.length_map] at hfits
  constructor
  case len =>
    have hlen := invoke_opened kind decode stated s (c := .len) rfl
    exact ⟨_, congrArg Outcome.answer hlen, (hpushes .close).len⟩
  case list =>
    intro field
    obtain ⟨view, hshown, hlist⟩ := hordered field
    rw [← hlist]
    exact orderedList_opened kind decode stated h hsmall hshown
  case ordered =>
    intro field
    obtain ⟨view, hshown, hlist⟩ := hordered field
    exact ⟨view, (hview field).trans (congrArg Except.ok hshown), hlist⟩
  case timestamps =>
    obtain ⟨view, hshown, hlist⟩ := h.timestamps.exists_ordered hsmall
    refine ⟨view, ?_, hlist.trans (map_rtake _ _ _)⟩
    exact (congrArg (Except.map RawView.ordered) htimes).trans (congrArg Except.ok hshown)
  case raw =>
    intro field
    exact ⟨_, hraw field, hpushes field⟩
  case rawTimestamps =>
    have hfits := h.timestamps.fitsPushes hsmall
    rw [List.length_map] at hfits
    exact ⟨_, htimes, hfits⟩

end Views

/-! ## Whole runs -/

/-- The wrapper stays open, and the engine inside records the history of the changes. -/
theorem run_opened (kind : BackendKind) (decode : DecodePolicy) {capacity : UInt64} {s : Engine}
    (h : Engine.new? capacity = some s) (changes : List BarChange) :
    ∃ s', BarChange.run changes (opened kind decode capacity s) =
        opened kind decode capacity s' ∧
      s'.Records capacity.toNat (BarChange.history changes) := by
  induction changes using List.reverseRecOn with
  | nil => exact ⟨s, rfl, Engine.records_new h⟩
  | append_singleton changes change ih =>
    obtain ⟨s', hrun, hrecords⟩ := ih
    refine ⟨change.apply s', ?_, ?_⟩
    · have hstate := (BarChange.op_opened kind decode capacity s' change).2
      unfold BarChange.run at hrun ⊢
      rw [List.foldl_append, hrun]
      exact hstate
    · rw [BarChange.history_append]
      exact hrecords.change change

/-- **Views show the true history of bars.** Whatever the kind of boundary, the policy and the
capacity that the engine accepts: after any pushes and updates the views show the last bars of the
history, which has one entry for each push, and the next push or update succeeds. -/
theorem views_show_the_history (kind : BackendKind) (decode : DecodePolicy) (capacity : UInt64)
    (haccepted : (Engine.new? capacity).isSome = true) :
    ∃ e, (MarketBridge.Engine.create ⟨backend kind, decode⟩ capacity ()).answer = .ok e ∧
      ∀ changes,
        ShowsHistory (BarChange.run changes e) capacity.toNat (BarChange.history changes) ∧
        (BarChange.history changes).length = changes.countP BarChange.isPush ∧
        ∀ change : BarChange, (change.op (BarChange.run changes e)).answer = .ok () := by
  obtain ⟨s, hnew⟩ := Option.isSome_iff_exists.mp haccepted
  refine ⟨opened kind decode capacity s, create_opened kind decode hnew, fun changes => ?_⟩
  obtain ⟨s', hrun, hrecords⟩ := run_opened kind decode hnew changes
  have hsmall : capacity.toNat + capacity.toNat < UInt64.size := by
    have hbound := (Engine.new?_bounds hnew).2
    have hmax : maxCapacity.toNat = 1048576 := rfl
    have hsize : UInt64.size = 18446744073709551616 := rfl
    omega
  rw [hrun]
  exact ⟨showsHistory_opened kind decode capacity hrecords hsmall, BarChange.length_history changes,
    fun change => (BarChange.op_opened kind decode capacity s' change).1⟩

/-- Two slots, three bars of which the last is then replaced: the oldest is gone. The new closes are
a number and an undefined value, whose sign and payload are kept. -/
theorem views_after_wrap :
    ∃ e, (MarketBridge.Engine.create ⟨backend .dylib, .strict⟩ 2 ()).answer = .ok e ∧
      ((BarChange.run [.push (.flat 1 1.5), .push (.flat 2 2.5), .push (.flat 3 3.5),
        .update (.flat 4 ⟨0xFFF0000000000123⟩)] e).orderedList .close).answer =
          .ok (some [2.5, ⟨0xFFF0000000000123⟩]) := by
  obtain ⟨e, hcreate, hshows⟩ := views_show_the_history .dylib .strict 2 rfl
  exact ⟨e, hcreate, (hshows _).1.list .close⟩

end MarketBridge.Reference
