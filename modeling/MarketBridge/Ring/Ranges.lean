/-!
# `Ring.Ranges` — where the live values of a ring lie

A ring of fixed capacity overwrites its oldest value. `head` is the next slot to be written, so the
newest value lies just before it and the oldest `len` slots further back, both counted around the
end of the storage. `liveRanges` splits that region into the part up to the end of the storage and
the part that continues at slot zero. Slots are addressed by 64-bit words, and every sum and
difference of words is checked: one that does not fit into a word stops the program, which the
definitions here answer with `none`.
-/

namespace MarketBridge.Ring

/-! ## Checked arithmetic -/

/-- The sum of two words; nothing if it does not fit into a word. -/
def addChecked (a b : UInt64) : Option UInt64 :=
  if a.toNat + b.toNat < UInt64.size then some (a + b) else none

/-- The difference of two words; nothing if it would be negative. -/
def subChecked (a b : UInt64) : Option UInt64 :=
  if b.toNat ≤ a.toNat then some (a - b) else none

theorem addChecked_eq_some_iff {a b r : UInt64} :
    addChecked a b = some r ↔ a.toNat + b.toNat < UInt64.size ∧ a + b = r := by
  unfold addChecked
  by_cases fits : a.toNat + b.toNat < UInt64.size
  · simp [fits]
  · simp [fits]

theorem subChecked_eq_some_iff {a b r : UInt64} :
    subChecked a b = some r ↔ b.toNat ≤ a.toNat ∧ a - b = r := by
  unfold subChecked
  by_cases fits : b.toNat ≤ a.toNat
  · simp [fits]
  · simp [fits]

/-- A sum that fits is the sum of the numbers. -/
theorem exists_addChecked {a b : UInt64} (fits : a.toNat + b.toNat < UInt64.size) :
    ∃ r, addChecked a b = some r ∧ r.toNat = a.toNat + b.toNat := by
  refine ⟨a + b, addChecked_eq_some_iff.mpr ⟨fits, rfl⟩, ?_⟩
  rw [UInt64.toNat_add]
  exact Nat.mod_eq_of_lt fits

/-- A difference that is not negative is the difference of the numbers. -/
theorem exists_subChecked {a b : UInt64} (fits : b.toNat ≤ a.toNat) :
    ∃ r, subChecked a b = some r ∧ r.toNat = a.toNat - b.toNat :=
  ⟨a - b, subChecked_eq_some_iff.mpr ⟨fits, rfl⟩,
    UInt64.toNat_sub_of_le _ _ (UInt64.le_iff_toNat_le.mpr fits)⟩

/-! ## The live region -/

/-- The slots from `start` up to but not including `stop`. -/
structure Span where
  start : UInt64
  stop : UInt64
  deriving DecidableEq, Repr

/-- No slots. -/
def Span.empty : Span := ⟨0, 0⟩

/-- The older and the newer part of the live region; nothing if a step of the computation overflows.
The metadata must satisfy `len ≤ capacity` and `head < capacity`; with capacity or length zero any
head will do. -/
def liveRanges (capacity len head : UInt64) : Option (Span × Span) :=
  if capacity = 0 || len = 0 then some (.empty, .empty)
  else do
    let sum ← addChecked head capacity
    let behind ← subChecked sum len
    let start := behind % capacity
    let stop ← addChecked start len
    if stop ≤ capacity then return (⟨start, stop⟩, .empty)
    else
      let rest ← subChecked stop capacity
      return (⟨start, capacity⟩, ⟨0, rest⟩)

end MarketBridge.Ring
