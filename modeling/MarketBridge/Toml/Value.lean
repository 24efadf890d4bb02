import MarketBridge.Double

/-!
# `Toml.Value` — what a TOML text says

A text is a table of values. Every table remembers how it came to be written, because that decides
which later lines may add to it; `Toml.Table` has the rules. Entries keep the order of the text.
-/

namespace MarketBridge.Toml

/-- A day of the calendar. -/
structure Day where
  year : Nat
  month : Nat
  day : Nat
  deriving DecidableEq, Repr

/-- A time of day. `fraction` holds the digits after the decimal point of the second. -/
structure Clock where
  hour : Nat
  minute : Nat
  second : Nat
  fraction : List Char
  deriving DecidableEq, Repr

/-- A day, a time of day, or both; with both there may be an offset in minutes. -/
structure Moment where
  day : Option Day
  clock : Option Clock
  offset : Option Int
  deriving DecidableEq, Repr

/-- How a table came to be written: `inline` between braces, `header` under a header of its own,
`passed` because a header names a table inside it, `dotted` because a dotted key leads through
it. -/
inductive Origin
  | inline
  | header
  | passed
  | dotted
  deriving DecidableEq, Repr

/-- A value. `tables` holds the tables that stand under doubled headers of one name. -/
inductive Value
  | text (value : String)
  | integer (value : Int)
  | real (value : Double)
  | boolean (value : Bool)
  | moment (value : Moment)
  | array (items : List Value)
  | table (origin : Origin) (entries : List (String × Value))
  | tables (elements : List (List (String × Value)))

/-- The entries of a table. -/
abbrev Entries := List (String × Value)

end MarketBridge.Toml
