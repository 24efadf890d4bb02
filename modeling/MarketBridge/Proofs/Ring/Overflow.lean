import MarketBridge.Proofs.Ring.Live

/-!
# `Ring.Overflow` — how far the words of the live region are exact

`liveRanges` counts slots in words and answers nothing if a sum or a difference of words does not
fit into one. The first sum, of the head and the capacity, decides: no step overflows exactly if it
fits (`isSome_iff`), which every storage of values that take up room sees to. Whatever the answer,
the spans are those of exact arithmetic and divide the live region between them
(`ranges_are_exact_as_far_as_sums_fit`).
-/

namespace MarketBridge.Ring

variable {capacity len head : UInt64}

/-! ## Exact spans -/

/-- The bounds of a span as numbers. -/
def Span.bounds (span : Span) : Int × Int :=
  (span.start.toNat, span.stop.toNat)

/-- The slot belongs to the span. -/
def Span.Has (span : Span) (slot : Nat) : Prop :=
  span.start.toNat ≤ slot ∧ slot < span.stop.toNat

/-- The bounds of the older and of the newer part by exact arithmetic: from the start of the live
region on, and from slot zero on as far as the region goes beyond the last slot. -/
def exactBounds (capacity len head : Int) : (Int × Int) × (Int × Int) :=
  if capacity = 0 ∨ len = 0 then ((0, 0), (0, 0))
  else
    let start := (head + capacity - len) % capacity
    ((start, min (start + len) capacity), (0, max 0 (start + len - capacity)))

/-- The spans are those of exact arithmetic. -/
def Exact (capacity len head : UInt64) (spans : Span × Span) : Prop :=
  (spans.1.bounds, spans.2.bounds) = exactBounds capacity.toNat len.toNat head.toNat

/-- The two spans lie within the storage, share no slot and have `len` slots together. -/
structure Divides (capacity len : UInt64) (spans : Span × Span) : Prop where
  older : spans.1.Within capacity.toNat
  newer : spans.2.Within capacity.toNat
  apart : ∀ slot, ¬ (spans.1.Has slot ∧ spans.2.Has slot)
  total : (spans.1.stop.toNat - spans.1.start.toNat) +
    (spans.2.stop.toNat - spans.2.start.toNat) = len.toNat

theorem exact_of_bare (h : capacity = 0 ∨ len = 0) : Exact capacity len head (.empty, .empty) := by
  have hnumbers : (capacity.toNat : Int) = 0 ∨ (len.toNat : Int) = 0 := by
    rcases h with rfl | rfl
    · exact .inl rfl
    · exact .inr rfl
  unfold Exact exactBounds
  rw [if_pos hnumbers]
  rfl

theorem divides_of_bare (hlen : len.toNat ≤ capacity.toNat) (h : capacity = 0 ∨ len = 0) :
    Divides capacity len (.empty, .empty) where
  older := Span.within_empty _
  newer := Span.within_empty _
  apart slot hslot := absurd hslot.1.2 (Nat.not_lt_zero slot)
  total := by
    rcases h with rfl | rfl
    · exact (Nat.le_zero.mp hlen).symm
    · rfl

/-! ## The spans by the slot that they start from -/

/-- Two spans that start from slot `s`, cut at the end of the storage. -/
structure CutAt (capacity len : UInt64) (s : Nat) (spans : Span × Span) : Prop where
  start : spans.1.start.toNat = s
  stop : spans.1.stop.toNat = min (s + len.toNat) capacity.toNat
  zero : spans.2.start.toNat = 0
  rest : spans.2.stop.toNat = s + len.toNat - capacity.toNat

/-- What comes of a sum that fits: no spans at all, or spans that start `len` slots before the
head. -/
theorem liveRanges_cases (hfits : Fits capacity.toNat len head)
    (hsum : SumFits capacity.toNat len head) :
    ((capacity = 0 ∨ len = 0) ∧ liveRanges capacity len head = some (.empty, .empty)) ∨
      (0 < capacity.toNat ∧ 0 < len.toNat ∧ ∃ spans, liveRanges capacity len head = some spans ∧
        CutAt capacity len ((head.toNat + capacity.toNat - len.toNat) % capacity.toNat) spans) := by
  by_cases bare : capacity = 0 ∨ len = 0
  · exact .inl ⟨bare, liveRanges_of_bare bare⟩
  · rw [not_or] at bare
    have hcapacity : capacity.toNat ≠ 0 := fun h => bare.1 (UInt64.toNat_inj.mp h)
    have hlen : len.toNat ≠ 0 := fun h => bare.2 (UInt64.toNat_inj.mp h)
    have hfit := (hsum.resolve_left hcapacity).resolve_left hlen
    obtain ⟨older, newer, hranges, hstart, hstop, hzero, hrest⟩ :=
      liveRanges_of_start bare.1 bare.2 hfits.1 hfit rfl
    exact .inr ⟨Nat.pos_of_ne_zero hcapacity, Nat.pos_of_ne_zero hlen, _, hranges,
      ⟨hstart, hstop, hzero, hrest⟩⟩

/-- The start is the exact one, so the bounds are. -/
theorem CutAt.exact {spans : Span × Span} (hlen : len.toNat ≤ capacity.toNat)
    (hcapacity : 0 < capacity.toNat) (hlive : 0 < len.toNat)
    (h : CutAt capacity len ((head.toNat + capacity.toNat - len.toNat) % capacity.toNat) spans) :
    Exact capacity len head spans := by
  obtain ⟨hstart, hstop, hzero, hrest⟩ := h
  have hdiff : ((head.toNat + capacity.toNat - len.toNat : Nat) : Int) =
      (head.toNat : Int) + capacity.toNat - len.toNat := by
    omega
  have hmod : (((head.toNat + capacity.toNat - len.toNat) % capacity.toNat : Nat) : Int) =
      ((head.toNat : Int) + capacity.toNat - len.toNat) % capacity.toNat := by
    rw [Int.natCast_emod, hdiff]
  unfold Exact exactBounds Span.bounds
  rw [if_neg (by omega), ← hmod, hstart, hstop, hzero, hrest]
  generalize (head.toNat + capacity.toNat - len.toNat) % capacity.toNat = s
  simp only [Prod.mk.injEq, true_and]
  omega

theorem CutAt.divides {s : Nat} {spans : Span × Span} (hlen : len.toNat ≤ capacity.toNat)
    (hs : s < capacity.toNat) (h : CutAt capacity len s spans) : Divides capacity len spans := by
  obtain ⟨hstart, hstop, hzero, hrest⟩ := h
  refine ⟨⟨by omega, by omega⟩, ⟨by omega, by omega⟩, ?_, by omega⟩
  -- the newer part ends before the older one starts
  rintro slot ⟨⟨hfrom, -⟩, -, hbefore⟩
  omega

/-! ## The law -/

/-- No step overflows just if the sum of the head and the capacity does not. -/
theorem isSome_iff (hfits : Fits capacity.toNat len head) :
    (liveRanges capacity len head).isSome = true ↔ SumFits capacity.toNat len head := by
  constructor
  · intro h
    by_contra overflow
    rw [liveRanges_of_overflow overflow] at h
    cases h
  · intro hsum
    rcases liveRanges_cases hfits hsum with ⟨-, hranges⟩ | ⟨-, -, spans, hranges, -⟩
    · rw [hranges]
      rfl
    · rw [hranges]
      rfl

/-- What holds of the live region of a ring whose numbers fit. -/
structure RangeLaw (capacity len head : UInt64) : Prop where
  /-- No step of the computation overflows just if the sum of the head and the capacity does not. -/
  checked : (liveRanges capacity len head).isSome = true ↔ SumFits capacity.toNat len head
  /-- Spans that come out of it are the exact ones. -/
  exact : ∀ spans, liveRanges capacity len head = some spans → Exact capacity len head spans
  /-- They divide the live region. -/
  divides : ∀ spans, liveRanges capacity len head = some spans → Divides capacity len spans
  /-- The sum fits in every storage of values that take up room. -/
  allocated : capacity.toNat ≤ 2 ^ 63 → SumFits capacity.toNat len head

/-- **Ranges are exact as far as sums fit.** For metadata that fit the capacity, whatever it is, the
computation overflows just if the head and the capacity do not fit into one word together; if it
does not, its spans are exact. -/
theorem ranges_are_exact_as_far_as_sums_fit (hfits : Fits capacity.toNat len head) :
    RangeLaw capacity len head := by
  have hchecked := isSome_iff hfits
  have hall : ∀ spans, liveRanges capacity len head = some spans →
      Exact capacity len head spans ∧ Divides capacity len spans := by
    intro spans h
    have hsum := hchecked.mp (by rw [h]; rfl)
    rcases liveRanges_cases hfits hsum with
      ⟨bare, hranges⟩ | ⟨hcapacity, hlive, spans', hranges, hcut⟩
    · rw [h, Option.some.injEq] at hranges
      subst hranges
      exact ⟨exact_of_bare bare, divides_of_bare hfits.1 bare⟩
    · rw [h, Option.some.injEq] at hranges
      subst hranges
      exact ⟨hcut.exact hfits.1 hcapacity hlive, hcut.divides hfits.1 (Nat.mod_lt _ hcapacity)⟩
  exact ⟨hchecked, fun spans h => (hall spans h).1, fun spans h => (hall spans h).2,
    sumFits_of_le hfits⟩

/-- A ring of half of all words that goes around its end. -/
theorem half_of_all_words_is_exact :
    Fits (9223372036854775808 : UInt64).toNat 9223372036854775808 9223372036854775807 ∧
      liveRanges 9223372036854775808 9223372036854775808 9223372036854775807 =
        some (⟨9223372036854775807, 9223372036854775808⟩, ⟨0, 9223372036854775807⟩) ∧
      Exact 9223372036854775808 9223372036854775808 9223372036854775807
        (⟨9223372036854775807, 9223372036854775808⟩, ⟨0, 9223372036854775807⟩) := by
  have hfits : Fits (9223372036854775808 : UInt64).toNat 9223372036854775808 9223372036854775807 :=
    ⟨by decide, .inr (by decide)⟩
  have hranges : liveRanges 9223372036854775808 9223372036854775808 9223372036854775807 =
      some (⟨9223372036854775807, 9223372036854775808⟩, ⟨0, 9223372036854775807⟩) := by
    decide
  exact ⟨hfits, hranges, (ranges_are_exact_as_far_as_sums_fit hfits).exact _ hranges⟩

/-- A full ring of all words but one, as exact arithmetic divides it. Its metadata are in order, and
yet the sum of the head and the capacity overflows. -/
theorem full_ring_of_all_words_overflows :
    Fits (18446744073709551615 : UInt64).toNat 18446744073709551615 1 ∧
      liveRanges 18446744073709551615 18446744073709551615 1 = none ∧
      exactBounds 18446744073709551615 18446744073709551615 1 =
        ((1, 18446744073709551615), (0, 1)) :=
  ⟨⟨by decide, .inr (by decide)⟩, by decide, by decide⟩

end MarketBridge.Ring
