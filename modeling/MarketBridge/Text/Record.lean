/-!
# `Text.Record` — the one-line text of a value with named parts

Diagnostics show a structured value as its name and its parts in declaration order:
`Name { first: 1, second: 2 }`, or the bare name when it has no parts.
-/

namespace MarketBridge.Text

/-- A value called `name` with the given named parts, each already written out. -/
def record (name : String) (parts : List (String × String)) : String :=
  if parts.isEmpty then name
  else name ++ " \x7b " ++ ", ".intercalate (parts.map fun p => p.1 ++ ": " ++ p.2) ++ " \x7d"

/-- A value that may be absent. -/
def optional (value : Option String) : String :=
  match value with
  | none => "None"
  | some text => "Some(" ++ text ++ ")"

end MarketBridge.Text
