import Mathlib.Data.Nat.ModEq
import MarketBridge.Proofs.Ring.Order

/-!
# `Ring.Live` — the ordered view shows the live slots and no others

The live slots of a ring are the `len` slots before its head, counted around the end of the storage;
`RawView.slot i` is the one of the value at place `i` from the oldest. A view is made exactly of
metadata that fit the storage (`RawView.of_eq_ok_iff`). If the head and the capacity together fit
into one word, its ordered view cuts two segments out of the storage within its bounds and shows
every live slot once, in time order, and nothing of the other slots; if they do not, there is no
ordered view (`RawView.ordered_view_is_exact`). Only values that take up no room can fill a storage
of that size.
-/

namespace MarketBridge

namespace Ring

/-- Metadata that fit a storage of `capacity` slots. -/
def Fits (capacity : Nat) (len head : UInt64) : Prop :=
  len.toNat ≤ capacity ∧ (capacity = 0 ∨ head.toNat < capacity)

/-- A span that can be cut out of a storage of `slots` slots. -/
structure Span.Within (span : Span) (slots : Nat) : Prop where
  start_le_stop : span.start.toNat ≤ span.stop.toNat
  stop_le : span.stop.toNat ≤ slots

theorem Span.within_empty (slots : Nat) : Span.empty.Within slots :=
  ⟨Nat.le_refl _, Nat.zero_le _⟩

/-- Half of all words leave room for every head. -/
theorem sumFits_of_le {capacity : Nat} {len head : UInt64} (hfits : Fits capacity len head)
    (hroom : capacity ≤ 2 ^ 63) : SumFits capacity len head := by
  rcases hfits.2 with hnone | hhead
  · exact .inl hnone
  · refine .inr (.inr ?_)
    unfold UInt64.size
    omega

end Ring

namespace RawView

variable {α : Type} {v : RawView α} {data : Array α} {len head : UInt64}

/-- The slot of the live value at place `i`, the oldest being at place zero. -/
def slot (v : RawView α) (i : Nat) : Nat :=
  (v.head.toNat + v.data.size - v.len.toNat + i) % v.data.size

/-- Whether the live region goes on at slot zero after the last slot. -/
def Wraps (v : RawView α) : Prop :=
  0 < v.len.toNat ∧ v.data.size < v.slot 0 + v.len.toNat

/-! ## Making a view -/

/-- The three outcomes of the check, by the numbers that the words stand for. -/
theorem checkMeta_eq (hdata : data.size < UInt64.size) (len head : UInt64) :
    checkMeta (UInt64.ofNat data.size) len head =
      if data.size < len.toNat then .error (.decoding "column length beyond capacity" len)
      else if 0 < data.size ∧ data.size ≤ head.toNat then
        .error (.decoding "column head beyond capacity" head)
      else .ok () := by
  have hcapacity : (UInt64.ofNat data.size).toNat = data.size := UInt64.toNat_ofNat_of_lt' hdata
  have hzero : (0 : UInt64).toNat = 0 := rfl
  unfold checkMeta
  simp only [UInt64.lt_iff_toNat_lt, UInt64.le_iff_toNat_le, hcapacity, hzero, Bool.and_eq_true,
    decide_eq_true_eq]

/-- A length beyond the capacity is reported, whatever the head. -/
theorem of_eq_error_len (hdata : data.size < UInt64.size) (h : data.size < len.toNat) :
    of data len head = .error (.decoding "column length beyond capacity" len) := by
  unfold of
  rw [checkMeta_eq hdata, if_pos h]
  rfl

/-- A head outside the storage is reported if the length is not. -/
theorem of_eq_error_head (hdata : data.size < UInt64.size) (hlen : len.toNat ≤ data.size)
    (hpositive : 0 < data.size) (hhead : data.size ≤ head.toNat) :
    of data len head = .error (.decoding "column head beyond capacity" head) := by
  unfold of
  rw [checkMeta_eq hdata, if_neg (Nat.not_lt.mpr hlen), if_pos ⟨hpositive, hhead⟩]
  rfl

theorem of_eq_ok (hdata : data.size < UInt64.size) (h : Ring.Fits data.size len head) :
    of data len head = .ok ⟨data, len, head⟩ := by
  obtain ⟨hlen, hhead⟩ := h
  unfold of
  rw [checkMeta_eq hdata, if_neg (Nat.not_lt.mpr hlen), if_neg (by omega)]
  rfl

/-- A view is made of metadata that fit, and of no others. -/
theorem of_eq_ok_iff (hdata : data.size < UInt64.size) :
    of data len head = .ok v ↔ Ring.Fits data.size len head ∧ v = ⟨data, len, head⟩ := by
  constructor
  · intro h
    by_cases hlen : data.size < len.toNat
    · rw [of_eq_error_len hdata hlen] at h
      cases h
    · rw [Nat.not_lt] at hlen
      by_cases hhead : data.size = 0 ∨ head.toNat < data.size
      · rw [of_eq_ok hdata ⟨hlen, hhead⟩] at h
        cases h
        exact ⟨⟨hlen, hhead⟩, rfl⟩
      · rw [of_eq_error_head hdata hlen (by omega) (by omega)] at h
        cases h
  · rintro ⟨hfits, rfl⟩
    exact of_eq_ok hdata hfits

/-! ## Slots -/

section Slots

variable (hfits : Ring.Fits v.data.size v.len v.head) {i j : Nat}
include hfits

/-- A ring with live values has slots. -/
theorem size_pos_of_lt_len (hi : i < v.len.toNat) : 0 < v.data.size :=
  lt_of_lt_of_le (Nat.zero_lt_of_lt hi) hfits.1

theorem slot_lt (hi : i < v.len.toNat) : v.slot i < v.data.size :=
  Nat.mod_lt _ (size_pos_of_lt_len hfits hi)

/-- No two live values share a slot. -/
theorem slot_injective (hi : i < v.len.toNat) (hj : j < v.len.toNat) (h : v.slot i = v.slot j) :
    i = j := by
  have hmod : i ≡ j [MOD v.data.size] := Nat.ModEq.add_left_cancel' _ h
  exact hmod.eq_of_lt_of_lt (lt_of_lt_of_le hi hfits.1) (lt_of_lt_of_le hj hfits.1)

end Slots

/-! ## The ordered view -/

/-- The ordered view `view` is exactly the live values of `v`. -/
structure ShowsLive (v : RawView α) (view : OrderedView α) : Prop where
  /-- Both segments are cut out of the storage within its bounds. -/
  segments : ∃ older newer, Ring.liveRanges v.capacity v.len v.head = some (older, newer) ∧
    view = ⟨v.slice older, v.slice newer⟩ ∧ older.Within v.data.size ∧ newer.Within v.data.size
  /-- There are as many values as the length says. -/
  size : view.size = v.len.toNat
  /-- Each is the value in its slot. -/
  item : ∀ i < v.len.toNat, v.slot i < v.data.size ∧ view.toList[i]? = v.data[v.slot i]?
  /-- No slot is shown twice. -/
  once : ∀ i < v.len.toNat, ∀ j < v.len.toNat, v.slot i = v.slot j → i = j
  /-- There is a newer segment exactly if the live region goes around the end of the storage. -/
  newer : view.newer.size ≠ 0 ↔ v.Wraps
  /-- Then the older segment reaches to the last slot, and the newer one starts at slot zero. -/
  seam : v.Wraps → view.older = v.data.extract (v.slot 0) v.data.size ∧
    view.newer = v.data.extract 0 (v.slot 0 + v.len.toNat - v.data.size)
  /-- The slots outside the live region make no difference. -/
  frame : ∀ data : Array α, data.size = v.data.size →
    (∀ i < v.len.toNat, data[v.slot i]? = v.data[v.slot i]?) →
    { v with data }.ordered = some view

theorem size_slice {span : Ring.Span} (h : span.Within v.data.size) :
    (v.slice span).size = span.stop.toNat - span.start.toNat := by
  rw [slice, Array.size_extract, Nat.min_eq_left h.stop_le]

/-- A ring without live values has two empty spans. -/
theorem liveRanges_of_len_zero (hnone : v.len.toNat = 0) :
    Ring.liveRanges v.capacity v.len v.head = some (.empty, .empty) :=
  Ring.liveRanges_of_bare (.inr (UInt64.toNat_inj.mp hnone))

section Fits

variable (hword : v.data.size < UInt64.size) (hfits : Ring.Fits v.data.size v.len v.head)
  (hsum : Ring.SumFits v.data.size v.len v.head)
include hword hfits hsum

/-- The spans of a ring with live values: from the oldest one on, and from slot zero on. -/
theorem exists_spans (hlive : 0 < v.len.toNat) :
    ∃ older newer, Ring.liveRanges v.capacity v.len v.head = some (older, newer) ∧
      older.start.toNat = v.slot 0 ∧
      older.stop.toNat = min (v.slot 0 + v.len.toNat) v.data.size ∧ newer.start.toNat = 0 ∧
      newer.stop.toNat = v.slot 0 + v.len.toNat - v.data.size := by
  have hcapacity : v.capacity.toNat = v.data.size := UInt64.toNat_ofNat_of_lt' hword
  have hsize := size_pos_of_lt_len hfits hlive
  have hfit := (hsum.resolve_left hsize.ne').resolve_left hlive.ne'
  have hslots : v.capacity ≠ 0 := fun h => by
    rw [h] at hcapacity
    exact absurd hcapacity.symm hsize.ne'
  have hlen : v.len ≠ 0 := fun h => by
    rw [h] at hlive
    exact absurd hlive (Nat.lt_irrefl 0)
  have hstart : v.slot 0 =
      (v.head.toNat + v.capacity.toNat - v.len.toNat) % v.capacity.toNat := by
    rw [hcapacity]
    rfl
  have hspans :=
    Ring.liveRanges_of_start hslots hlen (hcapacity ▸ hfits.1) (hcapacity ▸ hfit) hstart
  rw [hcapacity] at hspans
  exact hspans

/-- The spans lie within the storage. -/
theorem exists_spans_within :
    ∃ older newer, Ring.liveRanges v.capacity v.len v.head = some (older, newer) ∧
      older.Within v.data.size ∧ newer.Within v.data.size := by
  rcases Nat.eq_zero_or_pos v.len.toNat with hnone | hlive
  · exact ⟨_, _, liveRanges_of_len_zero hnone, Ring.Span.within_empty _, Ring.Span.within_empty _⟩
  · obtain ⟨older, newer, hranges, hstart, hstop, hzero, hend⟩ :=
      exists_spans hword hfits hsum hlive
    have hslot := slot_lt hfits hlive
    have hlen := hfits.1
    exact ⟨older, newer, hranges, ⟨by omega, by omega⟩, ⟨by omega, by omega⟩⟩

section View

variable {view : OrderedView α} (hview : v.ordered = some view)
include hview

/-- The values of the view as the start of a rotation. -/
theorem toList_of_ordered : view.toList =
    (v.data.toList.rotate (v.head.toNat + v.data.size - v.len.toNat)).take v.len.toNat := by
  obtain ⟨shown, hshown, hlist⟩ := exists_ordered hfits.1 hword hsum
  rw [hview, Option.some.injEq] at hshown
  rw [hshown, hlist]

theorem size_of_ordered : view.size = v.len.toNat := by
  have hlist := toList_of_ordered hword hfits hsum hview
  have hlength : view.toList.length = view.size := List.length_append
  rw [← hlength, hlist, List.length_take, List.length_rotate]
  exact Nat.min_eq_left hfits.1

/-- The value at place `i` is the one in slot `i` of the live region. -/
theorem getElem?_of_ordered {i : Nat} (hi : i < v.len.toNat) :
    view.toList[i]? = v.data[v.slot i]? := by
  rw [toList_of_ordered hword hfits hsum hview, List.getElem?_take_of_lt hi,
    List.getElem?_rotate (lt_of_lt_of_le hi hfits.1), Array.getElem?_toList, Nat.add_comm]
  rfl

/-- Past the live values there is nothing to show. -/
theorem getElem?_of_ordered_of_le {i : Nat} (hi : v.len.toNat ≤ i) : view.toList[i]? = none := by
  have hsize := size_of_ordered hword hfits hsum hview
  have hlength : view.toList.length = view.size := List.length_append
  exact List.getElem?_eq_none (by omega)

theorem segments_of_ordered :
    ∃ older newer, Ring.liveRanges v.capacity v.len v.head = some (older, newer) ∧
      view = ⟨v.slice older, v.slice newer⟩ ∧ older.Within v.data.size ∧
      newer.Within v.data.size := by
  obtain ⟨older, newer, hranges, hwithin⟩ := exists_spans_within hword hfits hsum
  have hcut : view = ⟨v.slice older, v.slice newer⟩ :=
    Option.some.inj (hview.symm.trans (ordered_of_ranges hranges))
  exact ⟨older, newer, hranges, hcut, hwithin⟩

theorem newer_size_ne_zero_iff : view.newer.size ≠ 0 ↔ v.Wraps := by
  obtain ⟨older, newer, hranges, rfl, -, hwithin⟩ := segments_of_ordered hword hfits hsum hview
  dsimp only
  rw [size_slice hwithin]
  unfold Wraps
  rcases Nat.eq_zero_or_pos v.len.toNat with hnone | hlive
  · rw [liveRanges_of_len_zero hnone] at hranges
    cases hranges
    rw [hnone]
    simp [Ring.Span.empty]
  · obtain ⟨_, _, hranges', -, -, hzero, hend⟩ := exists_spans hword hfits hsum hlive
    rw [hranges] at hranges'
    cases hranges'
    rw [hzero, hend]
    omega

/-- A region that goes around the end is cut there. -/
theorem seam_of_wraps (h : v.Wraps) :
    view.older = v.data.extract (v.slot 0) v.data.size ∧
      view.newer = v.data.extract 0 (v.slot 0 + v.len.toNat - v.data.size) := by
  obtain ⟨hlive, hbeyond⟩ := h
  obtain ⟨older, newer, hranges, hstart, hstop, hzero, hend⟩ := exists_spans hword hfits hsum hlive
  rw [ordered_of_ranges hranges, Option.some.injEq] at hview
  rw [← hview]
  unfold slice
  rw [hstart, hstop, hzero, hend, Nat.min_eq_right (Nat.le_of_lt hbeyond)]
  exact ⟨rfl, rfl⟩

/-- Two storages of one size with the same live values have the same ordered view. -/
theorem ordered_congr {w : RawView α} (hsize : w.data.size = v.data.size) (hlen : w.len = v.len)
    (hhead : w.head = v.head) (hlive : ∀ i < v.len.toNat, w.data[v.slot i]? = v.data[v.slot i]?) :
    w.ordered = some view := by
  have hword' : w.data.size < UInt64.size := hsize.trans_lt hword
  have hfits' : Ring.Fits w.data.size w.len w.head := by
    rw [hsize, hlen, hhead]
    exact hfits
  have hsum' : Ring.SumFits w.data.size w.len w.head := by
    rw [hsize, hlen, hhead]
    exact hsum
  have hslot : ∀ i, w.slot i = v.slot i := by
    intro i
    unfold slot
    rw [hsize, hlen, hhead]
  obtain ⟨older, newer, hranges, hcut, hwithin, -⟩ := segments_of_ordered hword hfits hsum hview
  have hview' : w.ordered = some ⟨w.slice older, w.slice newer⟩ := by
    refine ordered_of_ranges ?_
    rw [capacity, hsize, hlen, hhead]
    exact hranges
  -- the two show the same values in order
  have hlist : (⟨w.slice older, w.slice newer⟩ : OrderedView α).toList = view.toList := by
    refine List.ext_getElem? fun i => ?_
    by_cases hi : i < v.len.toNat
    · rw [getElem?_of_ordered hword' hfits' hsum' hview' (hlen ▸ hi), hslot, hlive i hi,
        getElem?_of_ordered hword hfits hsum hview hi]
    · rw [Nat.not_lt] at hi
      rw [getElem?_of_ordered_of_le hword' hfits' hsum' hview' (hlen ▸ hi),
        getElem?_of_ordered_of_le hword hfits hsum hview hi]
  -- and both are cut at the same place
  have hplace : (w.slice older).toList.length = (v.slice older).toList.length := by
    rw [Array.length_toList, Array.length_toList, size_slice hwithin, size_slice (hsize ▸ hwithin)]
  rw [hcut] at hlist
  obtain ⟨hfirst, hsecond⟩ := List.append_inj hlist hplace
  have holder : w.slice older = v.slice older := Array.toList_inj.mp hfirst
  have hnewer : w.slice newer = v.slice newer := Array.toList_inj.mp hsecond
  rw [hview', hcut, holder, hnewer]

theorem showsLive : v.ShowsLive view where
  segments := segments_of_ordered hword hfits hsum hview
  size := size_of_ordered hword hfits hsum hview
  item _ hi := ⟨slot_lt hfits hi, getElem?_of_ordered hword hfits hsum hview hi⟩
  once _ hi _ hj h := slot_injective hfits hi hj h
  newer := newer_size_ne_zero_iff hword hfits hsum hview
  seam := seam_of_wraps hword hfits hsum hview
  frame _ hsize hlive := ordered_congr hword hfits hsum hview hsize rfl rfl hlive

end View

end Fits

/-! ## Storage and metadata together -/

/-- What comes of a storage and two words as its metadata. -/
structure Reconstructs (data : Array α) (len head : UInt64) : Prop where
  /-- There is a view exactly if the metadata fit. -/
  accepted : (∃ v, of data len head = .ok v) ↔ Ring.Fits data.size len head
  /-- A length beyond the capacity is the error, whatever the head. -/
  tooLong : data.size < len.toNat →
    of data len head = .error (.decoding "column length beyond capacity" len)
  /-- A head outside the storage is the error if the length fits. -/
  headOutside : len.toNat ≤ data.size → 0 < data.size → data.size ≤ head.toNat →
    of data len head = .error (.decoding "column head beyond capacity" head)
  /-- The view is of just this storage and these metadata. -/
  view : ∀ v, of data len head = .ok v → v = ⟨data, len, head⟩
  /-- If the head and the capacity fit into one word together, it shows the live values in order. -/
  shown : ∀ v, of data len head = .ok v → Ring.SumFits data.size len head →
    ∃ shown, v.ordered = some shown ∧ v.ShowsLive shown
  /-- If they do not, it cannot be put in order. -/
  overflow : ∀ v, of data len head = .ok v → ¬ Ring.SumFits data.size len head → v.ordered = none
  /-- They do for every storage of values that take up room, since half of all words are enough to
  address it. -/
  allocated : Ring.Fits data.size len head → data.size ≤ 2 ^ 63 → Ring.SumFits data.size len head

/-- **The ordered view is exact and never out of bounds, and there is one unless a sum overflows.**
Whatever the length and the head, a storage is refused with the number that does not fit it, or its
ordered view shows every live slot once, in time order, and depends on no other slot. The number of
slots is a word. -/
theorem ordered_view_is_exact (data : Array α) (len head : UInt64)
    (hword : data.size < UInt64.size) : Reconstructs data len head := by
  have hview : ∀ v, of data len head = .ok v →
      Ring.Fits data.size len head ∧ v = ⟨data, len, head⟩ :=
    fun _ hv => (of_eq_ok_iff hword).mp hv
  refine ⟨?_, of_eq_error_len hword, of_eq_error_head hword, fun v hv => (hview v hv).2, ?_, ?_,
    Ring.sumFits_of_le⟩
  · constructor
    · rintro ⟨v, hv⟩
      exact (hview v hv).1
    · intro hfits
      exact ⟨_, of_eq_ok hword hfits⟩
  · intro v hv hsum
    obtain ⟨hfits, rfl⟩ := hview v hv
    obtain ⟨shown, hshown, -⟩ := exists_ordered (v := ⟨data, len, head⟩) hfits.1 hword hsum
    exact ⟨shown, hshown, showsLive hword hfits hsum hshown⟩
  · intro v hv hsum
    obtain ⟨-, rfl⟩ := hview v hv
    exact ordered_of_overflow hword hsum

/-- Four slots after five values: the newest value lies in slot zero, and the oldest after it. -/
theorem wrapped_ring_is_exact :
    (#[5, 2, 3, 4] : Array Nat).size < UInt64.size ∧ Reconstructs #[5, 2, 3, 4] 4 1 ∧
      (RawView.mk #[5, 2, 3, 4] 4 1).Wraps ∧
      (RawView.mk #[5, 2, 3, 4] 4 1).ordered = some ⟨#[2, 3, 4], #[5]⟩ := by
  refine ⟨by decide, ordered_view_is_exact _ _ _ (by decide), ?_, by decide +kernel⟩
  exact ⟨by decide, by decide⟩

/-- A full storage of as many empty values as a word can count. Its metadata are in order, and yet
the head and the capacity do not fit into one word together. -/
theorem full_storage_overflows :
    Ring.Fits (Array.replicate 18446744073709551615 ()).size 18446744073709551615 1 ∧
      ∃ v, of (Array.replicate 18446744073709551615 ()) 18446744073709551615 1 = .ok v ∧
        v.ordered = none := by
  have hsize : (Array.replicate 18446744073709551615 ()).size = 18446744073709551615 :=
    Array.size_replicate
  have hword : (Array.replicate 18446744073709551615 ()).size < UInt64.size := by
    rw [hsize]
    decide
  have hfits : Ring.Fits (Array.replicate 18446744073709551615 ()).size 18446744073709551615 1 := by
    rw [hsize]
    exact ⟨by decide, .inr (by decide)⟩
  refine ⟨hfits, _, of_eq_ok hword hfits, ordered_of_overflow hword ?_⟩
  show ¬ Ring.SumFits (Array.replicate 18446744073709551615 ()).size _ _
  rw [hsize]
  rintro (h | h | h)
  · exact absurd h (by decide)
  · exact absurd h (by decide)
  · exact absurd h (by decide)

end RawView

end MarketBridge
