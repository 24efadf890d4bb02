import MarketBridge.Engine
import MarketBridge.Proofs.Backend
import MarketBridge.Proofs.Ring.Live
import MarketBridge.Reference.Code
import MarketBridge.Script

/-!
# `Length` — the length of an engine whose library has no symbol for it

Without a symbol for the length a library is asked for its close column, and the length is the one
that the column states. Nothing checks it (`len_of_lacks`), whereas the view of the closes checks
the same numbers against the storage (`orderedView_close`). So the two agree exactly if the column
is consistent (`length_matches_view_iff`), and an inconsistent column is refused by the one and
passed on by the other (`unchecked_length_is_told`).
-/

namespace MarketBridge

variable {ε β α : Type}

/-! ## Columns -/

namespace Column

/-- Whether the numbers of the column fit its storage; without storage there are no values. -/
def Consistent (column : Column α) : Prop :=
  match column.slots with
  | none => column.len = 0
  | some data => Ring.Fits data.size column.len column.head

/-- The storage has no more slots than can be allocated. -/
def Allocated (column : Column α) : Prop :=
  ∀ data ∈ column.slots, data.size ≤ 2 ^ 63

/-- The ordered view of a column, if the numbers fit. -/
def view (column : Column α) : Except Error (Option (OrderedView α)) :=
  (RawView.ofColumn column).map RawView.ordered

variable {column : Column α}

/-- A column without storage is shown as no values, whatever its numbers. -/
theorem view_of_none (h : column.slots = none) : column.view = .ok (some ⟨#[], #[]⟩) := by
  unfold view RawView.ofColumn
  rw [h]
  rfl

/-- The view of a consistent column has as many items as the column states. -/
theorem view_of_consistent (hroom : column.Allocated) (h : column.Consistent) :
    ∃ view, column.view = .ok (some view) ∧ view.size = column.len.toNat := by
  unfold Consistent at h
  cases hslots : column.slots with
  | none =>
    rw [hslots] at h
    dsimp only at h
    refine ⟨_, view_of_none hslots, ?_⟩
    rw [h]
    rfl
  | some data =>
    rw [hslots] at h
    have hdata : data.size ≤ 2 ^ 63 := hroom data hslots
    have hword : data.size < UInt64.size := lt_of_le_of_lt hdata (by decide)
    have hsum := Ring.sumFits_of_le h hdata
    obtain ⟨view, hview, -⟩ :=
      RawView.exists_ordered (v := ⟨data, column.len, column.head⟩) h.1 hword hsum
    refine ⟨view, ?_, RawView.size_of_ordered hword h hsum hview⟩
    unfold Column.view RawView.ofColumn
    rw [hslots]
    dsimp only
    rw [RawView.of_eq_ok hword h]
    exact congrArg Except.ok hview

/-- A view with as many items as the column states is of a consistent column. -/
theorem consistent_of_view (hroom : column.Allocated) {view : OrderedView α}
    (hview : column.view = .ok (some view)) (hsize : view.size = column.len.toNat) :
    column.Consistent := by
  unfold Consistent
  cases hslots : column.slots with
  | none =>
    rw [view_of_none hslots] at hview
    cases hview
    exact UInt64.toNat_inj.mp hsize.symm
  | some data =>
    have hdata : data.size ≤ 2 ^ 63 := hroom data hslots
    unfold Column.view RawView.ofColumn at hview
    rw [hslots] at hview
    dsimp only at hview ⊢
    cases hof : RawView.of data column.len column.head with
    | error error =>
      rw [hof] at hview
      cases hview
    | ok v => exact ((RawView.of_eq_ok_iff (lt_of_le_of_lt hdata (by decide))).mp hof).1

end Column

/-! ## Wrappers -/

namespace Engine

/-- The length that `e` tells is the number of items that the view of the closes of `e'` shows, and
an error of that view is the error in place of the length too. -/
structure LengthMatchesView (e e' : Engine ε β) : Prop where
  items : ∀ n, (len e).answer = .ok n →
    ∃ view, (orderedView .close e').answer = .ok (some view) ∧ view.size = n.toNat
  error : ∀ error, (orderedView .close e').answer = .error error → (len e).answer = .error error

end Engine

namespace TableBackend

variable (b : TableBackend ε β) (decode : DecodePolicy) (capacity : UInt64) (s s' : ε)

/-- The open wrapper around an engine that is reached through the table. -/
def opened : Engine ε β :=
  ⟨some (b.engineLink s), .dylib, decode, capacity⟩

/-- The close column that the library describes. -/
def closes : Column Double :=
  (b.code.engine (.column .close) s).1

/-- Without a symbol for it the length is the one that the close column states. -/
theorem len_of_lacks (hlacks : b.table.has .len = false) :
    (Engine.len (b.opened decode capacity s)).answer = .ok (b.closes s).len := by
  have hcall : (b.engineCall .len s).answer = .ok (b.closes s).len := by
    unfold engineCall
    dsimp only
    rw [if_neg (by simp [hlacks])]
    rfl
  exact hcall

/-- The view of the closes is the checked view of the close column. -/
theorem orderedView_close :
    (Engine.orderedView .close (b.opened decode capacity s)).answer = (b.closes s).view := rfl

variable {b s s'}

/-- Without a symbol for it the length matches the view just for a consistent close column. -/
theorem length_matches_view_iff (hlacks : b.table.has .len = false)
    (hroom : (b.closes s).Allocated) (hsame : b.closes s' = b.closes s) :
    Engine.LengthMatchesView (b.opened decode capacity s) (b.opened decode capacity s') ↔
      (b.closes s).Consistent := by
  have hlen := len_of_lacks b decode capacity s hlacks
  have hview : (Engine.orderedView .close (b.opened decode capacity s')).answer =
      (b.closes s).view := by
    rw [orderedView_close, hsame]
  constructor
  · intro hmatches
    obtain ⟨view, hshown, hsize⟩ := hmatches.items _ hlen
    exact Column.consistent_of_view hroom (hview.symm.trans hshown) hsize
  · intro hconsistent
    obtain ⟨view, hshown, hsize⟩ := Column.view_of_consistent hroom hconsistent
    refine ⟨fun n hn => ?_, fun error herror => ?_⟩
    · have hstated : (b.closes s).len = n := Except.ok.inj (hlen.symm.trans hn)
      exact ⟨view, hview.trans hshown, hstated ▸ hsize⟩
    · rw [hview, hshown] at herror
      cases herror

/-- **An unchecked length is told.** A library without a symbol for the length, which describes its
close column in the same way twice, is believed the length that the column states, whatever the
storage; so length and view agree on the consistent columns and on no others. -/
theorem unchecked_length_is_told (hlacks : b.table.has .len = false)
    (hroom : (b.closes s).Allocated) (hsame : b.closes s' = b.closes s) :
    (Engine.len (b.opened decode capacity s)).answer = .ok (b.closes s).len ∧
      (Engine.LengthMatchesView (b.opened decode capacity s) (b.opened decode capacity s') ↔
        (b.closes s).Consistent) :=
  ⟨len_of_lacks b decode capacity s hlacks,
    length_matches_view_iff decode capacity hlacks hroom hsame⟩

end TableBackend

/-! ## Scripted columns -/

namespace Script

/-- An engine that describes every field by the same column. -/
def holding (column : Column Double) : Script :=
  { plain with columns := fun _ => some column }

/-- A library of such engines that has the required symbols only. -/
def describing (column : Column Double) : TableBackend Script Script where
  origin := "scripted"
  dynamic := false
  table := Reference.coreTable
  code := (holding column).code

/-- A wrapper around an engine of that library. -/
def described (column : Column Double) : Engine Script Script :=
  (describing column).opened .strict 2 (holding column)

variable (column : Column Double)

theorem describing_lacks : (describing column).table.has .len = false := by
  show Reference.coreTable.has .len = false
  decide +kernel

theorem len_described : (Engine.len (described column)).answer = .ok column.len :=
  (describing column).len_of_lacks .strict 2 (holding column) (describing_lacks column)

theorem orderedView_described :
    (Engine.orderedView .close (described column)).answer = column.view := rfl

end Script

/-- Two slots that hold two values: the length is theirs. -/
theorem full_column_length_is_told :
    (Script.describing ⟨some #[1.5, 2.5], 2, 0⟩).table.has .len = false ∧
      (Engine.len (Script.described ⟨some #[1.5, 2.5], 2, 0⟩)).answer = .ok 2 ∧
      Engine.LengthMatchesView (Script.described ⟨some #[1.5, 2.5], 2, 0⟩)
        (Script.described ⟨some #[1.5, 2.5], 2, 0⟩) := by
  have hroom : Column.Allocated (α := Double) ⟨some #[1.5, 2.5], 2, 0⟩ := by
    rintro data ⟨⟩
    decide
  have hlacks := Script.describing_lacks ⟨some #[1.5, 2.5], 2, 0⟩
  obtain ⟨hlen, hmatches⟩ := TableBackend.unchecked_length_is_told .strict 2 hlacks
    (s := Script.holding ⟨some #[1.5, 2.5], 2, 0⟩) hroom rfl
  refine ⟨hlacks, hlen, hmatches.mpr ?_⟩
  exact ⟨by decide, by decide⟩

/-- Two slots that are said to hold five values: the view is refused and the length is told. A
column without storage that is said to hold three is shown as no values, and the length is told. -/
theorem overlong_length_is_told :
    (Script.describing ⟨some #[1.5, 2.5], 5, 0⟩).table.has .len = false ∧
      (Engine.len (Script.described ⟨some #[1.5, 2.5], 5, 0⟩)).answer = .ok 5 ∧
      (Engine.orderedView .close (Script.described ⟨some #[1.5, 2.5], 5, 0⟩)).answer =
        .error (.decoding "column length beyond capacity" 5) ∧
      ¬ Engine.LengthMatchesView (Script.described ⟨some #[1.5, 2.5], 5, 0⟩)
        (Script.described ⟨some #[1.5, 2.5], 5, 0⟩) ∧
      (Engine.len (Script.described ⟨none, 3, 7⟩)).answer = .ok 3 ∧
      (Engine.orderedView .close (Script.described ⟨none, 3, 7⟩)).answer =
        .ok (some ⟨#[], #[]⟩) := by
  have hlen := Script.len_described ⟨some #[1.5, 2.5], 5, 0⟩
  have hview : (Engine.orderedView .close (Script.described ⟨some #[1.5, 2.5], 5, 0⟩)).answer =
      .error (.decoding "column length beyond capacity" 5) := by
    have hbeyond : (#[1.5, 2.5] : Array Double).size < (5 : UInt64).toNat := by decide
    have hrefused : RawView.of (#[1.5, 2.5] : Array Double) 5 0 =
        .error (.decoding "column length beyond capacity" 5) :=
      RawView.of_eq_error_len (by decide) hbeyond
    exact congrArg (Except.map RawView.ordered) hrefused
  have hempty := (Script.orderedView_described ⟨none, 3, 7⟩).trans (Column.view_of_none rfl)
  refine ⟨Script.describing_lacks _, hlen, hview, fun hmatches => ?_,
    Script.len_described ⟨none, 3, 7⟩, hempty⟩
  have hsame := hmatches.error _ hview
  rw [hlen] at hsame
  cases hsame

end MarketBridge
