import MarketBridge.Journal

/-!
# `Handle` — sole ownership of one native allocation

A handle is made only from a pointer that is not null. It gives the pointer out until it is
released, and releasing frees the allocation the first time and does nothing after that. Dropping a
handle releases it.
-/

namespace MarketBridge

/-- Ownership of an allocation. `free` is what freeing leaves in the journal; `target` is the
pointer, until it has been freed. -/
structure Handle (σ : Type) where
  label : String
  free : σ → List Event
  target : Option σ

namespace Handle

variable {σ : Type}

/-- Takes ownership of what a constructor returned; nothing is owned when that was null. -/
def acquire (raw : Option σ) (free : σ → List Event) (label : String) (capacity : UInt64) :
    Op Unit (Except Error (Handle σ)) :=
  match raw with
  | none => return .error (.allocation label capacity)
  | some pointer => do
    Op.log (.handleAcquired label)
    return .ok ⟨label, free, some pointer⟩

/-- The pointer, as long as it has not been freed. -/
def pointer (h : Handle σ) : Except Error σ :=
  match h.target with
  | some p => .ok p
  | none => .error (.precondition h.label)

/-- Whether the allocation has been freed. -/
def isReleased (h : Handle σ) : Bool :=
  h.target.isNone

/-- Frees the allocation unless that has been done; answers whether it was done now. -/
def release : Op (Handle σ) Bool :=
  fun h =>
    match h.target with
    | some p => ⟨true, { h with target := none }, h.free p ++ [.log (.handleReleased h.label)]⟩
    | none => ⟨false, h, []⟩

/-- What dropping the handle leaves in the journal. -/
def drop (h : Handle σ) : List Event :=
  (release h).events

/-- The handle as diagnostics show it once it is released; before that its text holds an address. -/
def describe? (h : Handle σ) : Option String :=
  if h.isReleased then
    some (Text.record "NativeHandle" [("label", Text.quote h.label), ("ptr", Text.optional none)])
  else none

end Handle

end MarketBridge
