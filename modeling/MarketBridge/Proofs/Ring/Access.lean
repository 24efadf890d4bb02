import MarketBridge.Ring.View

/-!
# `Ring.Access` — every way of reading an ordered view reads one list

The two segments of an ordered view are an accident of the storage: the view stands for
`OrderedView.toList`, the older values and then the newer ones. Looking a value up by its place
gives the entry of that list at the place, counted from the oldest value (`OrderedView.get?_eq`) or
from the newest (`OrderedView.getFromEnd?_eq`), and a walk meets its entries in order
(`Cursor.toList_eq_ahead`). Places are machine words, and `sizeChecked`, `getChecked` and
`getFromEndChecked` are the same look-ups with every sum and difference of words checked: none of
them wraps around, whatever the place (`accessors_read_one_list`).
-/

namespace MarketBridge.OrderedView

open MarketBridge.Ring (addChecked subChecked addChecked_eq_some_iff subChecked_eq_some_iff)

variable {α : Type} (v : OrderedView α)

/-! ## Places -/

theorem length_toList : v.toList.length = v.size := by
  unfold toList size
  rw [List.length_append, Array.length_toList, Array.length_toList]

theorem get?_eq (i : Nat) : v.get? i = v.toList[i]? := by
  unfold get? toList
  by_cases older : i < v.older.size
  · rw [if_pos older, List.getElem?_append_left older, Array.getElem?_toList]
  · rw [if_neg older, List.getElem?_append_right (Nat.not_lt.mp older), Array.length_toList,
      Array.getElem?_toList]

theorem getFromEnd?_eq (i : Nat) : v.getFromEnd? i = v.toList.reverse[i]? := by
  have hlength := v.length_toList
  unfold getFromEnd?
  by_cases gone : v.size ≤ i
  · rw [if_pos gone, List.getElem?_eq_none]
    rw [List.length_reverse]
    omega
  · rw [if_neg gone, get?_eq, List.getElem?_reverse (by omega), hlength]

theorem isEmpty_iff : v.isEmpty = true ↔ v.toList = [] := by
  unfold isEmpty
  rw [beq_iff_eq, ← length_toList, List.length_eq_zero_iff]

theorem last?_eq : v.last? = v.toList.getLast? := by
  unfold last?
  rw [getFromEnd?_eq, ← List.head?_eq_getElem?, List.head?_reverse]

/-! ## Walks -/

namespace Cursor

/-- The values that the walk has not met yet: the ends of the two segments. -/
def ahead (c : Cursor α) : List α :=
  c.view.older.toList.drop c.older ++ c.view.newer.toList.drop c.newer

/-- A step meets the first of the values ahead and leaves the others. -/
theorem ahead_of_next?_some {c rest : Cursor α} {value : α} (h : c.next? = some (value, rest)) :
    c.ahead = value :: rest.ahead := by
  unfold next? at h
  cases holder : c.view.older[c.older]? with
  | some first =>
    simp only [holder, Option.some.injEq, Prod.mk.injEq] at h
    obtain ⟨rfl, rfl⟩ := h
    unfold ahead
    rw [List.drop_eq_getElem?_toList_append, Array.getElem?_toList, holder]
    rfl
  | none =>
    cases hnewer : c.view.newer[c.newer]? with
    | some first =>
      simp only [holder, hnewer, Option.some.injEq, Prod.mk.injEq] at h
      obtain ⟨rfl, rfl⟩ := h
      have hdone : c.view.older.toList.drop c.older = [] := by
        rw [List.drop_eq_nil_iff]
        exact Array.getElem?_eq_none_iff.mp holder
      unfold ahead
      rw [hdone, List.drop_eq_getElem?_toList_append, Array.getElem?_toList, hnewer]
      rfl
    | none =>
      simp [holder, hnewer] at h

/-- A walk ends when nothing is ahead. -/
theorem ahead_of_next?_none {c : Cursor α} (h : c.next? = none) : c.ahead = [] := by
  unfold next? at h
  cases holder : c.view.older[c.older]? with
  | some first => simp [holder] at h
  | none =>
    cases hnewer : c.view.newer[c.newer]? with
    | some first => simp [holder, hnewer] at h
    | none =>
      rw [Array.getElem?_eq_none_iff] at holder hnewer
      unfold ahead
      simp [List.drop_eq_nil_iff, holder, hnewer]

/-- The whole walk meets the values ahead of it, each once and in order. -/
theorem toList_eq_ahead (c : Cursor α) : c.toList = c.ahead := by
  fun_induction toList c with
  | case1 c value rest hnext ih => rw [ahead_of_next?_some hnext, ih]
  | case2 c hnext => rw [ahead_of_next?_none hnext]

end Cursor

theorem cursor_toList : v.cursor.toList = v.toList := by
  rw [Cursor.toList_eq_ahead]
  rfl

/-! ## Look-ups in words -/

section Words

variable {v} (room : v.size < UInt64.size)
include room

theorem toNat_olderSize : (UInt64.ofNat v.older.size).toNat = v.older.size :=
  UInt64.toNat_ofNat_of_lt' (Nat.lt_of_le_of_lt (Nat.le_add_right _ _) room)

theorem toNat_newerSize : (UInt64.ofNat v.newer.size).toNat = v.newer.size :=
  UInt64.toNat_ofNat_of_lt' (Nat.lt_of_le_of_lt (Nat.le_add_left _ _) room)

theorem sizeChecked_eq : v.sizeChecked = some (UInt64.ofNat v.size) := by
  unfold sizeChecked
  rw [addChecked_eq_some_iff, toNat_olderSize room, toNat_newerSize room]
  exact ⟨room, (UInt64.ofNat_add _ _).symm⟩

theorem getChecked_eq (i : UInt64) : v.getChecked i = some (v.get? i.toNat) := by
  have holder := toNat_olderSize room
  unfold getChecked get?
  simp only [UInt64.lt_iff_toNat_lt, holder]
  by_cases older : i.toNat < v.older.size
  · rw [if_pos older, if_pos older]
  · have hplace : subChecked i (UInt64.ofNat v.older.size) =
        some (i - UInt64.ofNat v.older.size) :=
      subChecked_eq_some_iff.mpr ⟨by omega, rfl⟩
    have hnat : (i - UInt64.ofNat v.older.size).toNat = i.toNat - v.older.size := by
      rw [UInt64.toNat_sub_of_le _ _ (by rw [UInt64.le_iff_toNat_le]; omega), holder]
    rw [if_neg older, if_neg older, hplace, ← hnat]
    rfl

theorem getFromEndChecked_eq (i : UInt64) :
    v.getFromEndChecked i = some (v.getFromEnd? i.toNat) := by
  have hsize : (UInt64.ofNat v.size).toNat = v.size := UInt64.toNat_ofNat_of_lt' room
  have hone : (1 : UInt64).toNat = 1 := rfl
  unfold getFromEndChecked getFromEnd?
  rw [sizeChecked_eq room, Option.bind_eq_bind, Option.bind_some]
  simp only [UInt64.le_iff_toNat_le, hsize]
  by_cases gone : v.size ≤ i.toNat
  · rw [if_pos gone, if_pos gone]
    rfl
  · have hnewest : subChecked (UInt64.ofNat v.size) 1 = some (UInt64.ofNat v.size - 1) :=
      subChecked_eq_some_iff.mpr ⟨by omega, rfl⟩
    have hbefore : (UInt64.ofNat v.size - 1).toNat = v.size - 1 := by
      rw [UInt64.toNat_sub_of_le _ _ (by rw [UInt64.le_iff_toNat_le]; omega), hsize, hone]
    have hplace : subChecked (UInt64.ofNat v.size - 1) i = some (UInt64.ofNat v.size - 1 - i) :=
      subChecked_eq_some_iff.mpr ⟨by omega, rfl⟩
    have hnat : (UInt64.ofNat v.size - 1 - i).toNat = v.size - 1 - i.toNat := by
      rw [UInt64.toNat_sub_of_le _ _ (by rw [UInt64.le_iff_toNat_le]; omega), hbefore]
    rw [if_neg gone, if_neg gone, hnewest, Option.bind_some, hplace,
      Option.bind_some, getChecked_eq room, hnat]

end Words

/-! ## All of them together -/

/-- Every accessor of the view reads the list `values`. -/
structure Reads (v : OrderedView α) (values : List α) : Prop where
  /-- A copy holds the values in order. -/
  copied : v.toList = values
  /-- A walk meets them in order. -/
  walked : v.cursor.toList = values
  size : v.size = values.length
  isEmpty : v.isEmpty = true ↔ values = []
  /-- Places count from the oldest value, and there is nothing past the newest. -/
  get : ∀ i, v.get? i = if h : i < values.length then some values[i] else none
  /-- Places from the end count from the newest value, and there is nothing past the oldest. -/
  getFromEnd : ∀ i, v.getFromEnd? i =
    if h : i < values.length then some values[values.length - 1 - i] else none
  last : v.last? = v.getFromEnd? 0 ∧ v.last? = values.getLast?
  /-- With a size that a word can hold no sum and no difference of words wraps around, whatever the
  place. -/
  inWords : v.size < UInt64.size → v.sizeChecked = some (UInt64.ofNat values.length) ∧
    ∀ i : UInt64, v.getChecked i = some (v.get? i.toNat) ∧
      v.getFromEndChecked i = some (v.getFromEnd? i.toNat)

/-- **All accessors describe one list.** The copy, the walk, the size and the look-ups from either
end of a view all read its older values followed by its newer ones, whichever of the two segments
are empty. The segments are two parts of one storage, so their sizes add up to a word. -/
theorem accessors_read_one_list (older newer : Array α) :
    (OrderedView.mk older newer).Reads (older.toList ++ newer.toList) where
  copied := rfl
  walked := cursor_toList _
  size := (length_toList _).symm
  isEmpty := isEmpty_iff _
  get i := by
    rw [get?_eq]
    exact getElem?_def _ _
  getFromEnd i := by
    rw [getFromEnd?_eq]
    by_cases h : i < (older.toList ++ newer.toList).length
    · rw [dif_pos h]
      exact (List.getElem?_reverse h).trans (List.getElem?_eq_getElem _)
    · rw [dif_neg h]
      exact List.getElem?_eq_none (by rw [List.length_reverse]; exact Nat.not_lt.mp h)
  last := ⟨rfl, last?_eq _⟩
  inWords room :=
    ⟨by rw [sizeChecked_eq room, ← length_toList]; rfl,
      fun i => ⟨getChecked_eq room i, getFromEndChecked_eq room i⟩⟩

/-- A view of four values that continues at the start of the storage: at the seam, at the oldest
value counted from the end, and at the largest of all places. -/
theorem wrapped_view_reads_one_list :
    (OrderedView.mk #[2, 3, 4] #[5] : OrderedView Nat).size < UInt64.size ∧
      (OrderedView.mk #[2, 3, 4] #[5]).cursor.toList = [2, 3, 4, 5] ∧
      (OrderedView.mk #[2, 3, 4] #[5]).getChecked 3 = some (some 5) ∧
      (OrderedView.mk #[2, 3, 4] #[5]).getFromEndChecked 3 = some (some 2) ∧
      (OrderedView.mk #[2, 3, 4] #[5]).getChecked (-1) = some none ∧
      (OrderedView.mk #[2, 3, 4] #[5]).getFromEndChecked (-1) = some none := by
  have room : (OrderedView.mk #[2, 3, 4] #[5] : OrderedView Nat).size < UInt64.size := by decide
  have reads := accessors_read_one_list #[2, 3, 4] #[5]
  obtain ⟨-, words⟩ := reads.inWords room
  refine ⟨room, reads.walked, ?_, ?_, ?_, ?_⟩
  · rw [(words 3).1, reads.get]
    decide
  · rw [(words 3).2, reads.getFromEnd]
    decide
  · rw [(words (-1)).1, reads.get]
    decide
  · rw [(words (-1)).2, reads.getFromEnd]
    decide

end MarketBridge.OrderedView
