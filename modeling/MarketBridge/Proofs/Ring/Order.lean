import Mathlib.Data.List.Rotate
import MarketBridge.Ring.View

/-!
# `Ring.Order` — the live values are a rotation of the storage

The oldest live value lies `len` slots before the head. Reading on from there, around the end of the
storage, gives the live values in time order, so the ordered view is the start of a rotation of the
storage (`RawView.exists_ordered`). The computation gets that far if the head and the capacity
together fit into one word, since all later sums are smaller, and overflows otherwise
(`Ring.SumFits`).
-/

namespace MarketBridge

namespace Ring

/-! ## The spans as numbers -/

variable {capacity len head : UInt64}

/-- The only sum that can be too large fits into a word, or is not formed. -/
def SumFits (capacity : Nat) (len head : UInt64) : Prop :=
  capacity = 0 ∨ len.toNat = 0 ∨ head.toNat + capacity < UInt64.size

/-- A ring without slots or without values has no live region. -/
theorem liveRanges_of_bare (h : capacity = 0 ∨ len = 0) :
    liveRanges capacity len head = some (.empty, .empty) := by
  unfold liveRanges
  rw [if_pos (by simpa using h)]

/-- The live region of any other ring, by its start `s`: one span if it ends inside the storage, and
two if it goes around the end. -/
theorem liveRanges_of_start {s : Nat} (hcapacity : capacity ≠ 0) (hlen : len ≠ 0)
    (hle : len.toNat ≤ capacity.toNat) (hfit : head.toNat + capacity.toNat < UInt64.size)
    (hs : s = (head.toNat + capacity.toNat - len.toNat) % capacity.toNat) :
    ∃ older newer, liveRanges capacity len head = some (older, newer) ∧ older.start.toNat = s ∧
      older.stop.toNat = min (s + len.toNat) capacity.toNat ∧ newer.start.toNat = 0 ∧
      newer.stop.toNat = s + len.toNat - capacity.toNat := by
  have hbefore : s ≤ head.toNat + capacity.toNat - len.toNat := hs ▸ Nat.mod_le _ _
  obtain ⟨sum, hadd, hsum⟩ := exists_addChecked hfit
  obtain ⟨behind, hsub, hbehind⟩ := exists_subChecked (a := sum) (b := len) (by omega)
  have hstart : (behind % capacity).toNat = s := by
    rw [UInt64.toNat_mod, hbehind, hsum, hs]
  -- the sum is at most the head and the capacity together
  obtain ⟨stop, hadd', hstop⟩ := exists_addChecked (a := behind % capacity) (b := len) (by omega)
  rw [hstart] at hstop
  unfold liveRanges
  rw [if_neg (by simp [hcapacity, hlen])]
  simp only [hadd, hsub, hadd', Option.bind_eq_bind, Option.bind_some]
  by_cases ends : stop ≤ capacity
  · rw [if_pos ends]
    rw [UInt64.le_iff_toNat_le, hstop] at ends
    refine ⟨_, _, rfl, hstart, ?_, rfl, ?_⟩
    · rw [hstop, Nat.min_eq_left ends]
    · rw [Nat.sub_eq_zero_of_le ends]
      rfl
  · rw [if_neg ends]
    rw [UInt64.not_le, UInt64.lt_iff_toNat_lt, hstop] at ends
    obtain ⟨rest, hsub', hrest⟩ := exists_subChecked (a := stop) (b := capacity) (by omega)
    rw [hsub', Option.bind_some]
    refine ⟨_, _, rfl, hstart, (Nat.min_eq_right ends.le).symm, rfl, ?_⟩
    rw [hrest, hstop]

/-- A sum of head and capacity that is too large ends the computation. -/
theorem liveRanges_of_overflow (h : ¬ SumFits capacity.toNat len head) :
    liveRanges capacity len head = none := by
  simp only [SumFits, not_or] at h
  obtain ⟨hcapacity, hlen, hsum⟩ := h
  have hslots : capacity ≠ 0 := fun h => hcapacity (congrArg UInt64.toNat h)
  have hlive : len ≠ 0 := fun h => hlen (congrArg UInt64.toNat h)
  unfold liveRanges addChecked
  rw [if_neg (by simp [hslots, hlive]), if_neg hsum]
  rfl

end Ring

/-! ## The view -/

namespace RawView

variable {α : Type} {v : RawView α}

/-- Metadata that fit the storage pass the check. -/
theorem of_consistent {data : Array α} {len head : UInt64} (hlen : len.toNat ≤ data.size)
    (hhead : head.toNat < data.size) (hfit : data.size < UInt64.size) :
    of data len head = .ok ⟨data, len, head⟩ := by
  have hcapacity : (UInt64.ofNat data.size).toNat = data.size := UInt64.toNat_ofNat_of_lt' hfit
  unfold of checkMeta
  rw [if_neg, if_neg]
  · rfl
  · rw [Bool.and_eq_true, decide_eq_true_eq, decide_eq_true_eq, UInt64.le_iff_toNat_le, hcapacity]
    omega
  · rw [UInt64.lt_iff_toNat_lt, hcapacity]
    omega

/-- The slots of a span, as a list. -/
theorem toList_slice (v : RawView α) (span : Ring.Span) :
    (v.slice span).toList =
      (v.data.toList.drop span.start.toNat).take (span.stop.toNat - span.start.toNat) := by
  rw [slice, Array.toList_extract]

/-- The ordered view by the spans of the live region. -/
theorem ordered_of_ranges {older newer : Ring.Span}
    (h : Ring.liveRanges v.capacity v.len v.head = some (older, newer)) :
    v.ordered = some ⟨v.slice older, v.slice newer⟩ := by
  unfold ordered
  rw [h]
  rfl

/-- A view whose sum is too large has no ordered view. -/
theorem ordered_of_overflow (hword : v.data.size < UInt64.size)
    (h : ¬ Ring.SumFits v.data.size v.len v.head) : v.ordered = none := by
  have hcapacity : v.capacity.toNat = v.data.size := UInt64.toNat_ofNat_of_lt' hword
  unfold ordered
  rw [Ring.liveRanges_of_overflow (hcapacity ▸ h)]
  rfl

/-- **The live values are a rotation of the storage.** They start at the oldest one and are as many
as the length says. -/
theorem exists_ordered (hlen : v.len.toNat ≤ v.data.size) (hword : v.data.size < UInt64.size)
    (hsum : Ring.SumFits v.data.size v.len v.head) :
    ∃ view, v.ordered = some view ∧ view.toList =
      (v.data.toList.rotate (v.head.toNat + v.data.size - v.len.toNat)).take v.len.toNat := by
  have hcapacity : v.capacity.toNat = v.data.size := UInt64.toNat_ofNat_of_lt' hword
  by_cases bare : v.data.size = 0 ∨ v.len.toNat = 0
  · have hnone : v.len.toNat = 0 := by omega
    refine ⟨_, ordered_of_ranges (Ring.liveRanges_of_bare (.inr (UInt64.toNat_inj.mp hnone))), ?_⟩
    unfold OrderedView.toList
    rw [toList_slice, hnone]
    simp [Ring.Span.empty]
  · rw [not_or] at bare
    have hfit := (hsum.resolve_left bare.1).resolve_left bare.2
    have hslots : v.capacity ≠ 0 := fun h => bare.1 (hcapacity.symm.trans (congrArg UInt64.toNat h))
    have hlive : v.len ≠ 0 := fun h => bare.2 (congrArg UInt64.toNat h)
    obtain ⟨older, newer, hranges, hstart, hstop, hzero, hend⟩ :=
      Ring.liveRanges_of_start hslots hlive (hcapacity ▸ hlen) (hcapacity ▸ hfit) rfl
    refine ⟨_, ordered_of_ranges hranges, ?_⟩
    unfold OrderedView.toList
    rw [toList_slice, toList_slice, hstart, hstop, hzero, hend, hcapacity]
    rw [List.rotate_eq_drop_append_take_mod, Array.length_toList]
    have hinside :=
      Nat.mod_lt (v.head.toNat + v.data.size - v.len.toNat) (Nat.pos_of_ne_zero bare.1)
    generalize (v.head.toNat + v.data.size - v.len.toNat) % v.data.size = s at hinside
    rw [List.take_append, List.length_drop, Array.length_toList, List.take_take, List.drop_zero]
    -- up to the end of the storage, and on from its beginning
    congr 1
    · rw [List.take_eq_take_iff, List.length_drop, Array.length_toList]
      omega
    · congr 1
      omega

end RawView

end MarketBridge
