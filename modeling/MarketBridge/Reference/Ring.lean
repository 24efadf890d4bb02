import MarketBridge.Ring.View

/-!
# `Reference.Ring` — a column that forgets its oldest value

The ring of the reference engine: values are written at the head, which then moves on by one and
starts again at slot zero after the last one.
-/

namespace MarketBridge.Reference

/-- A ring of as many slots as `data` has. -/
structure Ring (α : Type) where
  data : Array α
  len : Nat
  head : Nat
  deriving DecidableEq

namespace Ring

variable {α : Type}

/-- A ring of `capacity` slots without values; the slots hold `blank`. -/
def empty (capacity : Nat) (blank : α) : Ring α :=
  ⟨Array.replicate capacity blank, 0, 0⟩

/-- The number of slots. -/
def capacity (r : Ring α) : Nat :=
  r.data.size

/-- The slot that lies `i + 1` steps before the head. -/
def slotFromEnd (r : Ring α) (i : Nat) : Nat :=
  (r.head + r.capacity - 1 - i) % r.capacity

/-- Writes `v` as the newest value. -/
def push (r : Ring α) (v : α) : Ring α where
  data := r.data.setIfInBounds r.head v
  len := if r.len < r.capacity then r.len + 1 else r.len
  head := (r.head + 1) % r.capacity

/-- Writes `v` over the newest value, if there is one. -/
def updateLast (r : Ring α) (v : α) : Ring α :=
  if r.len = 0 then r
  else { r with data := r.data.setIfInBounds (r.slotFromEnd 0) v }

/-- The value at place `i` from the end, the newest being at place zero. -/
def fromEnd? (r : Ring α) (i : Nat) : Option α :=
  if r.len ≤ i then none else r.data[r.slotFromEnd i]?

/-- The column as the engine describes it. -/
def column (r : Ring α) : Column α :=
  ⟨some r.data, UInt64.ofNat r.len, UInt64.ofNat r.head⟩

end Ring

end MarketBridge.Reference
