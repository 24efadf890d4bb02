/-!
# `Session.Slots` — numbered places that may be empty
-/

namespace MarketBridge

/-- Values at numbered places, in rising order of their numbers. -/
structure Slots (α : Type) where
  entries : List (Nat × α)

namespace Slots

variable {α : Type}

/-- All places empty. -/
def empty : Slots α := ⟨[]⟩

/-- The value at place `i`. -/
def get? (s : Slots α) (i : Nat) : Option α :=
  s.entries.lookup i

/-- The places without place `i`. -/
def erase (s : Slots α) (i : Nat) : Slots α :=
  ⟨s.entries.filter fun e => e.1 != i⟩

/-- Puts `a` at place `i`. -/
def set (s : Slots α) (i : Nat) (a : α) : Slots α :=
  ⟨(s.entries.filter fun e => e.1 < i) ++ (i, a) :: s.entries.filter fun e => i < e.1⟩

/-- The values in rising order of their places. -/
def toList (s : Slots α) : List α :=
  s.entries.map (·.2)

end Slots

end MarketBridge
