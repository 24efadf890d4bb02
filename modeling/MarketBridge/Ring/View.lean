import MarketBridge.Error
import MarketBridge.Ring.Ranges

/-!
# `Ring.View` — checked windows on a ring

The engine describes a column by its storage, its length and its head. `RawView.of` checks the two
numbers against the capacity; `RawView.ordered` then cuts the live region into two segments, which
together are the values in the order in which they were written. A view can be copied, asked by
place from either end, or walked through with an `OrderedView.Cursor`.
-/

namespace MarketBridge

/-- How the engine describes one column. `slots` is the whole storage, or nothing when the engine
has none to show; the other two numbers are whatever the engine says. -/
structure Column (α : Type) where
  slots : Option (Array α)
  len : UInt64
  head : UInt64
  deriving DecidableEq

/-! ## The values in time order -/

/-- The live values, oldest first, in two segments. -/
structure OrderedView (α : Type) where
  older : Array α
  newer : Array α
  deriving DecidableEq

namespace OrderedView

variable {α : Type}

/-- The view of no values. -/
def empty : OrderedView α := ⟨#[], #[]⟩

/-- All values, oldest first. -/
def toList (v : OrderedView α) : List α :=
  v.older.toList ++ v.newer.toList

/-- The number of values. -/
def size (v : OrderedView α) : Nat :=
  v.older.size + v.newer.size

/-- Whether there are no values. -/
def isEmpty (v : OrderedView α) : Bool :=
  v.size == 0

/-- The value at place `i`, the oldest being at place zero. -/
def get? (v : OrderedView α) (i : Nat) : Option α :=
  if i < v.older.size then v.older[i]? else v.newer[i - v.older.size]?

/-- The value at place `i` from the end, the newest being at place zero. -/
def getFromEnd? (v : OrderedView α) (i : Nat) : Option α :=
  if v.size ≤ i then none else v.get? (v.size - 1 - i)

/-- The newest value. -/
def last? (v : OrderedView α) : Option α :=
  v.getFromEnd? 0

/-! ### Look-ups in words -/

/-- The number of values, added up in words; nothing if the sum wraps around. -/
def sizeChecked (v : OrderedView α) : Option UInt64 :=
  Ring.addChecked (UInt64.ofNat v.older.size) (UInt64.ofNat v.newer.size)

/-- `get?` step by step in words; nothing if a difference wraps around. -/
def getChecked (v : OrderedView α) (i : UInt64) : Option (Option α) :=
  let bound := UInt64.ofNat v.older.size
  if i < bound then some v.older[i.toNat]?
  else do
    let place ← Ring.subChecked i bound
    return v.newer[place.toNat]?

/-- `getFromEnd?` step by step in words; nothing if a sum or a difference wraps around. -/
def getFromEndChecked (v : OrderedView α) (i : UInt64) : Option (Option α) := do
  let bound ← v.sizeChecked
  if bound ≤ i then return none
  else
    let newest ← Ring.subChecked bound 1
    let place ← Ring.subChecked newest i
    v.getChecked place

/-! ### Walking through the values -/

/-- A walk through a view: the next place in the older and in the newer segment. -/
structure Cursor (α : Type) where
  view : OrderedView α
  older : Nat
  newer : Nat

/-- The walk that begins at the oldest value. -/
def cursor (v : OrderedView α) : Cursor α := ⟨v, 0, 0⟩

namespace Cursor

/-- The next value and the walk after it. The newer segment is entered once the older one has been
walked through. -/
def next? (c : Cursor α) : Option (α × Cursor α) :=
  match c.view.older[c.older]? with
  | some value => some (value, { c with older := c.older + 1 })
  | none =>
    match c.view.newer[c.newer]? with
    | some value => some (value, { c with newer := c.newer + 1 })
    | none => none

/-- The number of places ahead. -/
def remaining (c : Cursor α) : Nat :=
  (c.view.older.size - c.older) + (c.view.newer.size - c.newer)

theorem remaining_of_next? {c rest : Cursor α} {value : α} (h : c.next? = some (value, rest)) :
    rest.remaining < c.remaining := by
  unfold next? at h
  split at h
  · next _ hvalue =>
    obtain ⟨inside, -⟩ := Array.getElem?_eq_some_iff.mp hvalue
    cases h
    unfold remaining
    dsimp only
    omega
  · split at h
    · next _ hvalue =>
      obtain ⟨inside, -⟩ := Array.getElem?_eq_some_iff.mp hvalue
      cases h
      unfold remaining
      dsimp only
      omega
    · cases h

/-- The values ahead, in the order in which they come. -/
def toList (c : Cursor α) : List α :=
  match _next : c.next? with
  | some (value, rest) => value :: rest.toList
  | none => []
termination_by c.remaining
decreasing_by exact remaining_of_next? ‹_›

end Cursor

end OrderedView

/-! ## The whole storage -/

/-- The storage of a ring with its metadata. Slots outside the live region hold old values. -/
structure RawView (α : Type) where
  data : Array α
  len : UInt64
  head : UInt64
  deriving DecidableEq

namespace RawView

variable {α : Type}

/-- The number of slots. -/
def capacity (v : RawView α) : UInt64 :=
  UInt64.ofNat v.data.size

/-- Whether there are no live values. -/
def isEmpty (v : RawView α) : Bool :=
  v.len == 0

/-- Refuses a length above the capacity and a head outside the storage. -/
def checkMeta (capacity len head : UInt64) : Except Error Unit :=
  if capacity < len then .error (.decoding "column length beyond capacity" len)
  else if 0 < capacity && capacity ≤ head then
    .error (.decoding "column head beyond capacity" head)
  else .ok ()

/-- The view of a storage, if its metadata fit. -/
def of (data : Array α) (len head : UInt64) : Except Error (RawView α) := do
  checkMeta (UInt64.ofNat data.size) len head
  return ⟨data, len, head⟩

/-- The view of a column; a column without storage is an empty view, whatever its numbers say. -/
def ofColumn (column : Column α) : Except Error (RawView α) :=
  match column.slots with
  | none => .ok ⟨#[], 0, 0⟩
  | some data => of data column.len column.head

/-- The slots of `span` in order. -/
def slice (v : RawView α) (span : Ring.Span) : Array α :=
  v.data.extract span.start.toNat span.stop.toNat

/-- The live values in time order; nothing if the computation of the live region overflows. -/
def ordered (v : RawView α) : Option (OrderedView α) := do
  let (older, newer) ← Ring.liveRanges v.capacity v.len v.head
  return ⟨v.slice older, v.slice newer⟩

end RawView

end MarketBridge
