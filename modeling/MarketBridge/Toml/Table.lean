import MarketBridge.Toml.Value

/-!
# `Toml.Table` — tables put together from lines

A TOML text is a list of assignments, some of them under headers. An assignment to a dotted key
leads through tables that only dotted keys have made; a header leads through any table that is not
inline. Whatever is written twice, or in two ways that do not go together, makes the whole text
wrong.
-/

namespace MarketBridge.Toml

/-- A dotted key: the names of the tables that it leads through, and the last name. -/
structure KeyPath where
  through : List String
  last : String
  deriving DecidableEq, Repr

/-- A line that gives a value to a key. -/
structure Assignment where
  key : KeyPath
  value : Value

/-- A header: `table` stands between single brackets, `element` between doubled ones. -/
inductive Header
  | table (path : KeyPath)
  | element (path : KeyPath)
  deriving DecidableEq, Repr

/-- A header with the assignments under it. -/
structure Section where
  header : Header
  assignments : List Assignment

/-! ## Changing a table in place -/

/-- The entries with the value of `key` replaced. -/
def replace (key : String) (value : Value) (entries : Entries) : Entries :=
  entries.map fun e => if e.1 = key then (key, value) else e

/-- The entries without `key`. -/
def remove (key : String) (entries : Entries) : Entries :=
  entries.filter fun e => e.1 ≠ key

/-- Whether a walk that makes tables of origin `made` may lead through a table of origin
`found`. -/
def mayEnter (made found : Origin) : Bool :=
  match found with
  | .inline => false
  | .header => made ≠ .dotted
  | .passed | .dotted => true

/-- Changes the table that `path` leads to. Tables that are not there are made, with the origin
`made`; an array of tables is entered at its last element. `change` is told the origin of the table
that it changes. -/
def changeAt (made : Origin) (change : Origin → Entries → Option Entries) :
    Origin → List String → Entries → Option Entries
  | origin, [], entries => change origin entries
  | _, key :: path, entries =>
    match entries.lookup key with
    | none => do
      let inner ← changeAt made change made path []
      return entries ++ [(key, .table made inner)]
    | some (.table origin inner) =>
      if mayEnter made origin then do
        let inner' ← changeAt made change origin path inner
        return replace key (.table origin inner') entries
      else none
    | some (.tables elements) => do
      let last ← elements.getLast?
      let last' ← changeAt made change .header path last
      return replace key (.tables (elements.dropLast ++ [last'])) entries
    | some _ => none

/-! ## Lines -/

/-- Carries out an assignment. The table that a dotted key ends in must be one that dotted keys have
made, and the key must be new. -/
def assign (entries : Entries) (a : Assignment) : Option Entries :=
  changeAt .dotted
    (fun origin inner =>
      if (origin == .dotted) == a.key.through.isEmpty || (inner.lookup a.key.last).isSome then none
      else some (inner ++ [(a.key.last, a.value)]))
    .header a.key.through entries

/-- Carries out the assignments of a table, on top of the entries that it has. -/
def assignAll (entries : Entries) (assignments : List Assignment) : Option Entries :=
  assignments.foldlM assign entries

/-- Puts a section into the root table. A table may get its header after tables inside it, and then
takes a new place in the order; apart from that a header is written once. -/
def placeSection (root : Entries) (s : Section) : Option Entries :=
  match s.header with
  | .table path =>
    changeAt .passed
      (fun _ parent =>
        match parent.lookup path.last with
        | none => do
          return parent ++ [(path.last, .table .header (← assignAll [] s.assignments))]
        | some (.table .passed inner) => do
          let entries ← assignAll inner s.assignments
          return remove path.last parent ++ [(path.last, .table .header entries)]
        | some _ => none)
      .header path.through root
  | .element path =>
    changeAt .passed
      (fun _ parent =>
        match parent.lookup path.last with
        | none => do
          return parent ++ [(path.last, .tables [← assignAll [] s.assignments])]
        | some (.tables elements) => do
          let element ← assignAll [] s.assignments
          return replace path.last (.tables (elements ++ [element])) parent
        | some _ => none)
      .header path.through root

/-- The root table of the assignments before the first header and of the sections. -/
def build (assignments : List Assignment) (sections : List Section) : Option Entries := do
  sections.foldlM placeSection (← assignAll [] assignments)

/-- An inline table of assignments. -/
def inlineTable (assignments : List Assignment) : Option Value := do
  return .table .inline (← assignAll [] assignments)

end MarketBridge.Toml
