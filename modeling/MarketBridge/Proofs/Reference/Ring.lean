import Mathlib.Data.List.DropRight
import MarketBridge.Proofs.Ring.Order
import MarketBridge.Reference.Ring

/-!
# `Reference.Ring` — a ring holds the end of a history

Number the values that were ever pushed into a ring in order. Value `i` goes to slot `i` modulo the
capacity, and it stays there until value `i + capacity` comes. `Ring.Holds` says so of a ring and a
history; pushing appends to the history (`Holds.push`) and updating replaces its last entry
(`Holds.updateLast`). Both ways of reading a ring, its own from the end and the ordered view, then
give the last entries of the history (`Holds.fromEnd?`, `Holds.exists_ordered`).
-/

namespace MarketBridge.Reference.Ring

variable {α : Type} {r : Ring α} {capacity : Nat} {history : List α}

/-- The ring has `capacity` slots and was filled with `history`. -/
structure Holds (r : Ring α) (capacity : Nat) (history : List α) : Prop where
  positive : 0 < capacity
  size : r.data.size = capacity
  len : r.len = min history.length capacity
  head : r.head = history.length % capacity
  slot : ∀ i < history.length, history.length ≤ i + capacity →
    r.data[i % capacity]? = history[i]?

theorem holds_empty (hpositive : 0 < capacity) (blank : α) :
    (empty capacity blank).Holds capacity [] where
  positive := hpositive
  size := Array.size_replicate
  len := (Nat.zero_min _).symm
  head := (Nat.zero_mod _).symm
  slot _ h := absurd h (Nat.not_lt_zero _)

/-- Two numbers in reach of each other that share a slot are the same. -/
theorem eq_of_mod_eq {i n : Nat} (hle : i ≤ n) (hreach : n < i + capacity)
    (h : i % capacity = n % capacity) : i = n := by
  have hdiff : (n - i) % capacity = 0 := Nat.sub_mod_eq_zero_of_mod_eq h.symm
  rw [Nat.mod_eq_of_lt (by omega)] at hdiff
  omega

/-! ## Writing -/

/-- Pushing appends to the history. -/
theorem Holds.push (h : r.Holds capacity history) (v : α) :
    (r.push v).Holds capacity (history ++ [v]) where
  positive := h.positive
  size := by rw [Ring.push, Array.size_setIfInBounds, h.size]
  len := by
    have hlen := h.len
    rw [Ring.push, Ring.capacity, h.size, List.length_append, List.length_singleton]
    dsimp only
    split <;> omega
  head := by
    rw [Ring.push, Ring.capacity, h.size, h.head, List.length_append, List.length_singleton]
    exact Nat.mod_add_mod _ _ _
  slot i hi hreach := by
    rw [List.length_append, List.length_singleton] at hi hreach
    rw [Ring.push, h.head]
    -- the slot just written holds the newest value, and no other value in reach shares it
    by_cases newest : i = history.length
    · rw [newest, List.getElem?_concat_length, Array.getElem?_setIfInBounds_self_of_lt]
      rw [h.size]
      exact Nat.mod_lt _ h.positive
    · have apart : history.length % capacity ≠ i % capacity := fun same =>
        newest (eq_of_mod_eq (by omega) (by omega) same.symm)
      rw [Array.getElem?_setIfInBounds_ne apart, List.getElem?_append_left (by omega)]
      exact h.slot i (by omega) (by omega)

/-- Counting back from the head leads to the slot of the value that many pushes ago. -/
theorem Holds.slotFromEnd (h : r.Holds capacity history) {i : Nat} (hi : i < history.length)
    (hreach : i < capacity) : r.slotFromEnd i = (history.length - 1 - i) % capacity := by
  unfold Ring.slotFromEnd Ring.capacity
  rw [h.size, h.head]
  calc (history.length % capacity + capacity - 1 - i) % capacity
      = (history.length % capacity + (capacity - 1 - i)) % capacity := by congr 1; omega
    _ = (history.length + (capacity - 1 - i)) % capacity := Nat.mod_add_mod _ _ _
    _ = (history.length - 1 - i + capacity) % capacity := by congr 1; omega
    _ = (history.length - 1 - i) % capacity := Nat.add_mod_right _ _

/-- Updating replaces the last entry of the history. -/
theorem Holds.updateLast {earlier : List α} {last : α}
    (h : r.Holds capacity (earlier ++ [last])) (v : α) :
    (r.updateLast v).Holds capacity (earlier ++ [v]) := by
  have hlength : (earlier ++ [last]).length = earlier.length + 1 := List.length_append
  have hsame : (earlier ++ [v]).length = (earlier ++ [last]).length := by
    rw [List.length_append, List.length_append]
    rfl
  have hlive : r.len ≠ 0 := by
    have hlen := h.len
    have hpositive := h.positive
    omega
  have hslot := h.slotFromEnd (i := 0) (by omega) h.positive
  rw [hlength] at hslot
  unfold Ring.updateLast
  rw [if_neg hlive, hslot]
  refine ⟨h.positive, ?_, ?_, ?_, ?_⟩
  · rw [Array.size_setIfInBounds, h.size]
  · rw [hsame]
    exact h.len
  · rw [hsame]
    exact h.head
  intro i hi hreach
  rw [hsame, hlength] at hi hreach
  show (r.data.setIfInBounds (earlier.length % capacity) v)[i % capacity]? = _
  -- as for a push, except that the newest value was there before
  by_cases newest : i = earlier.length
  · rw [newest, List.getElem?_concat_length, Array.getElem?_setIfInBounds_self_of_lt]
    rw [h.size]
    exact Nat.mod_lt _ h.positive
  · have apart : earlier.length % capacity ≠ i % capacity := fun same =>
      newest (eq_of_mod_eq (by omega) (by omega) same.symm)
    have hold := h.slot i (by omega) (by omega)
    rw [List.getElem?_append_left (by omega)] at hold
    rw [Array.getElem?_setIfInBounds_ne apart, List.getElem?_append_left (by omega)]
    exact hold

/-! ## Reading -/

/-- Reading from the end gives the last entries, newest first. -/
theorem Holds.fromEnd? (h : r.Holds capacity history) (i : Nat) :
    r.fromEnd? i = (history.rtake capacity).reverse[i]? := by
  have hlen := h.len
  unfold Ring.fromEnd?
  rw [List.rtake_eq_reverse_take_reverse, List.reverse_reverse]
  by_cases gone : r.len ≤ i
  · rw [if_pos gone, List.getElem?_eq_none]
    rw [List.length_take, List.length_reverse]
    omega
  · have hi : i < history.length := by omega
    have hreach : i < capacity := by omega
    rw [if_neg gone, h.slotFromEnd hi hreach, List.getElem?_take_of_lt hreach,
      List.getElem?_reverse hi]
    exact h.slot _ (by omega) (by omega)

/-- The newest value is the last entry. -/
theorem Holds.newest {earlier : List α} {last : α}
    (h : r.Holds capacity (earlier ++ [last])) : r.fromEnd? 0 = some last := by
  have hpositive := h.positive
  rw [h.fromEnd?, List.rtake_eq_reverse_take_reverse, List.reverse_reverse,
    List.getElem?_take_of_lt hpositive, List.reverse_append]
  rfl

/-- The ring as the far side of the boundary sees it. -/
def view (r : Ring α) : RawView α :=
  ⟨r.data, UInt64.ofNat r.len, UInt64.ofNat r.head⟩

section View

variable (h : r.Holds capacity history) (hsmall : capacity + capacity < UInt64.size)
include h hsmall

theorem Holds.toNat_len : r.view.len.toNat = min history.length capacity := by
  have hlen := h.len
  have hfit : r.len < UInt64.size := by omega
  rw [view, UInt64.toNat_ofNat_of_lt' hfit, hlen]

theorem Holds.toNat_head : r.view.head.toNat = history.length % capacity := by
  have hhead := h.head
  have hinside := Nat.mod_lt history.length h.positive
  have hfit : r.head < UInt64.size := by omega
  rw [view, UInt64.toNat_ofNat_of_lt' hfit, hhead]

/-- The metadata of a ring are always consistent. -/
theorem Holds.ofColumn : RawView.ofColumn r.column = .ok r.view := by
  have hsize : r.data.size = capacity := h.size
  have hlen := h.toNat_len hsmall
  have hhead := h.toNat_head hsmall
  have hinside := Nat.mod_lt history.length h.positive
  exact RawView.of_consistent (hlen.trans_le (by omega)) (hhead.trans_lt (by omega)) (by omega)

/-- The ordered view gives the last entries, oldest first. -/
theorem Holds.exists_ordered :
    ∃ view, r.view.ordered = some view ∧ view.toList = history.rtake capacity := by
  have hsize : r.view.data.size = capacity := h.size
  have hlen := h.toNat_len hsmall
  have hhead := h.toNat_head hsmall
  have hinside := Nat.mod_lt history.length h.positive
  obtain ⟨view, hview, hlist⟩ :=
    RawView.exists_ordered (v := r.view) (by omega) (by omega) (.inr (.inr (by omega)))
  refine ⟨view, hview, ?_⟩
  rw [hlist, hlen, hhead, hsize]
  refine List.ext_getElem? fun i => ?_
  unfold List.rtake
  rw [List.getElem?_drop]
  by_cases live : i < min history.length capacity
  · -- value `i` of the view is value `history.length - capacity + i` of the history
    have hplace : (i + (history.length % capacity + capacity - min history.length capacity)) %
        capacity = (history.length - capacity + i) % capacity := by
      generalize history.length = n
      calc (i + (n % capacity + capacity - min n capacity)) % capacity
          = (n % capacity + (capacity - min n capacity + i)) % capacity := by congr 1; omega
        _ = (n + (capacity - min n capacity + i)) % capacity := Nat.mod_add_mod _ _ _
        _ = (n - capacity + i + capacity) % capacity := by congr 1; omega
        _ = (n - capacity + i) % capacity := Nat.add_mod_right _ _
    have hstorage : r.view.data.toList.length = capacity := h.size
    rw [List.getElem?_take_of_lt live, List.getElem?_rotate (by omega), hstorage, hplace,
      Array.getElem?_toList]
    exact h.slot _ (by omega) (by omega)
  · rw [List.getElem?_eq_none (by rw [List.length_take]; omega), List.getElem?_eq_none (by omega)]

end View

end MarketBridge.Reference.Ring
