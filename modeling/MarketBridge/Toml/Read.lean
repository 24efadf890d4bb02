import MarketBridge.Toml.Lexeme
import MarketBridge.Toml.Table

/-!
# `Toml.Read` — TOML texts

Reads version 1.0 of the language. Arrays and inline tables may lie in one another up to a fixed
depth, and dotted keys may have up to that many parts; beyond it the text counts as wrong. `read?`
answers the root table, or nothing when any part of the text is wrong.

## Contents

* keys: `readKey`
* values: `readValue`, by recursion on the depth that is left
* whole texts: `readLines`, `sections`, `read?`
-/

namespace MarketBridge.Toml

/-- The number of arrays and inline tables that may lie in one another, and of parts that a key may
have. -/
def maxDepth : Nat := 79

/-! ## Keys -/

/-- Whether `c` may stand in a key without quotes. -/
def isBare (c : Char) : Bool :=
  c.isAlphanum || c = '-' || c = '_'

/-- Reads one part of a key. -/
def readKeyPart (cs : List Char) : Option (String × List Char) :=
  match cs with
  | '\x22' :: rest => (readLineText .basic rest).map fun (s, r) => (String.ofList s, r)
  | '\x27' :: rest => (readLineText .literal rest).map fun (s, r) => (String.ofList s, r)
  | _ =>
    let bare := cs.takeWhile isBare
    if bare.isEmpty then none else some (String.ofList bare, cs.dropWhile isBare)

/-- Reads the parts of a key, at most `count` of them, with blanks around each and dots between
them. -/
def readKeyParts : Nat → List Char → Option (List String × List Char)
  | 0, _ => none
  | count + 1, cs => do
    let (part, rest) ← readKeyPart (skipBlanks cs)
    match skipBlanks rest with
    | '.' :: more => do
      let (parts, rest) ← readKeyParts count more
      return (part :: parts, rest)
    | rest => return ([part], rest)

/-- The key with the given parts. -/
def KeyPath.ofParts? (parts : List String) : Option KeyPath :=
  parts.getLast?.map fun last => ⟨parts.dropLast, last⟩

/-- Reads a key. -/
def readKey (cs : List Char) : Option (KeyPath × List Char) := do
  let (parts, rest) ← readKeyParts maxDepth cs
  let key ← KeyPath.ofParts? parts
  return (key, rest)

/-! ## Values -/

/-- A reader of values, or of what lies in them. -/
abbrev Reader (α : Type) := List Char → Option (α × List Char)

/-- Reads a boolean. -/
def readBoolean : Reader Value
  | 't' :: 'r' :: 'u' :: 'e' :: rest => some (.boolean true, rest)
  | 'f' :: 'a' :: 'l' :: 's' :: 'e' :: rest => some (.boolean false, rest)
  | _ => none

/-- Reads a value that no other values lie in. -/
def readScalar (cs : List Char) : Option (Value × List Char) :=
  match cs with
  | [] => none
  | c :: _ =>
    if c = '\x22' || c = '\x27' then
      (readText cs).map fun (s, r) => (.text (String.ofList s), r)
    else if c = 't' || c = 'f' then readBoolean cs
    else if startsDay cs || startsClock cs then
      (readMoment cs).map fun (m, r) => (.moment m, r)
    else readNumber cs

/-- Reads the items of an array after its opening bracket, at most `fuel` of them, and the closing
bracket. A comma may follow the last item. -/
def readItems (item : Reader Value) : Nat → Reader (List Value)
  | 0, _ => none
  | fuel + 1, cs =>
    match skipLines cs with
    | ']' :: rest => some ([], rest)
    | cs => do
      let (v, rest) ← item cs
      match skipLines rest with
      | ']' :: rest => return ([v], rest)
      | ',' :: rest => do
        let (vs, rest) ← readItems item fuel rest
        return (v :: vs, rest)
      | _ => none

/-- Reads a key, the sign `=` and a value. -/
def readAssignment (item : Reader Value) : Reader Assignment := fun cs => do
  let (key, rest) ← readKey cs
  let rest ← expect '=' rest
  let (value, rest) ← item (skipBlanks rest)
  return (⟨key, value⟩, rest)

/-- Reads the assignments of an inline table, at most `fuel` of them and at least one, and the
closing brace. No comma may follow the last one. -/
def readAssignments (item : Reader Value) : Nat → Reader (List Assignment)
  | 0, _ => none
  | fuel + 1, cs => do
    let (a, rest) ← readAssignment item cs
    match skipBlanks rest with
    | '\x7d' :: rest => return ([a], rest)
    | ',' :: rest => do
      let (later, rest) ← readAssignments item fuel rest
      return (a :: later, rest)
    | _ => none

/-- Reads an inline table after its opening brace. -/
def readInlineTable (item : Reader Value) : Reader Value := fun cs =>
  match skipBlanks cs with
  | '\x7d' :: rest => do
    return (← inlineTable [], rest)
  | _ => do
    let (assignments, rest) ← readAssignments item (cs.length + 1) cs
    return (← inlineTable assignments, rest)

/-- Reads a value in which others may lie `depth` deep. -/
def readValue : Nat → Reader Value
  | 0, cs => readScalar cs
  | depth + 1, cs =>
    match cs with
    | '[' :: rest => (readItems (readValue depth) (rest.length + 1) rest).map fun (vs, r) =>
        (.array vs, r)
    | '\x7b' :: rest => readInlineTable (readValue depth) rest
    | _ => readScalar cs

/-! ## Whole texts -/

/-- A line that says something. -/
inductive Line
  | assignment (a : Assignment)
  | header (h : Header)

/-- Reads the rest of a header line: the key, the closing text, and the end of the line. -/
def readHeader (wrap : KeyPath → Header) (closing : List Char) (cs : List Char) :
    Option (Line × List Char) := do
  let (key, rest) ← readKey cs
  if closing.isPrefixOf rest then do
    let rest ← lineEnd (rest.drop closing.length)
    return (.header (wrap key), rest)
  else none

/-- Reads one line that says something, its end included. -/
def readLine (cs : List Char) : Option (Line × List Char) :=
  match cs with
  | '[' :: '[' :: rest => readHeader .element [']', ']'] rest
  | '[' :: rest => readHeader .table [']'] rest
  | _ => do
    let (a, rest) ← readAssignment (readValue maxDepth) cs
    return (.assignment a, ← lineEnd rest)

/-- Reads all lines, at most `fuel` of them. -/
def readLinesFrom : Nat → List Char → Option (List Line)
  | 0, _ => none
  | fuel + 1, cs =>
    match skipLines cs with
    | [] => some []
    | cs =>
      match lineEnd cs with
      | some _ => some []
      | none => do
        let (line, rest) ← readLine cs
        let later ← readLinesFrom fuel rest
        return line :: later

/-- Reads all lines. A byte order mark at the very front is passed over. -/
def readLines (cs : List Char) : Option (List Line) :=
  let body := match cs with
    | '\ufeff' :: rest => rest
    | _ => cs
  readLinesFrom (body.length + 1) body

/-- The assignments before the first header, and the sections. -/
def sections : List Line → List Assignment × List Section
  | [] => ([], [])
  | .assignment a :: later =>
    let (own, others) := sections later
    (a :: own, others)
  | .header h :: later =>
    let (own, others) := sections later
    ([], ⟨h, own⟩ :: others)

/-- The root table of a text. -/
def read? (text : String) : Option Entries := do
  let lines ← readLines text.toList
  let (own, others) := sections lines
  build own others

end MarketBridge.Toml
