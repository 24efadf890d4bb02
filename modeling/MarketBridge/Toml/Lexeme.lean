import MarketBridge.Decimal.Read
import MarketBridge.Toml.Value

/-!
# `Toml.Lexeme` — the smallest parts of a TOML text

Each reader takes characters off the front of a list and answers what it has read together with the
rest, or nothing when the front is not of its form. Texts, numbers, dates and times are read here;
what they are put together to is read in `Toml.Read`.

## Contents

* blanks, comments and line ends: `skipBlanks`, `lineEnd`
* texts in the four kinds of quotes: `readText`
* numbers: `readNumber`
* dates and times: `readMoment`
-/

namespace MarketBridge.Toml

/-! ## Blanks, comments and line ends -/

/-- Whether `c` may stand in a comment, or in a text that takes no escapes: a tab, or anything but
control characters. -/
def isPlain (c : Char) : Bool :=
  c = '\t' || (0x20 ≤ c.toNat && c.toNat ≠ 0x7F)

/-- Whether `c` separates words within a line. -/
def isGap (c : Char) : Bool :=
  c = ' ' || c = '\t'

/-- Skips blanks within a line. -/
def skipBlanks (cs : List Char) : List Char :=
  cs.dropWhile isGap

/-- Takes a line end off the front: a line feed, which may have a carriage return before it. -/
def newline? : List Char → Option (List Char)
  | '\n' :: rest => some rest
  | '\r' :: '\n' :: rest => some rest
  | _ => none

/-- Skips a comment up to the end of its line, if there is one. -/
def skipComment : List Char → List Char
  | '#' :: rest => rest.dropWhile isPlain
  | cs => cs

/-- Takes the end of a line off the front: blanks, perhaps a comment, and a line end or the end of
the text. -/
def lineEnd (cs : List Char) : Option (List Char) :=
  match skipComment (skipBlanks cs) with
  | [] => some []
  | rest => newline? rest

theorem length_skipBlanks_le (cs : List Char) : (skipBlanks cs).length ≤ cs.length :=
  (List.dropWhile_suffix isGap).length_le

theorem length_skipComment_le (cs : List Char) : (skipComment cs).length ≤ cs.length := by
  unfold skipComment
  split
  · exact Nat.le_succ_of_le (List.dropWhile_suffix isPlain).length_le
  · exact Nat.le_refl _

theorem length_lt_of_newline? {cs rest : List Char} (h : newline? cs = some rest) :
    rest.length < cs.length := by
  unfold newline? at h
  split at h
  · cases h; simp
  · cases h; simp only [List.length_cons]; omega
  · cases h

/-- Skips blanks, comments and line ends. -/
def skipLines (cs : List Char) : List Char :=
  match h : newline? (skipComment (skipBlanks cs)) with
  | some rest =>
    have : rest.length < cs.length :=
      calc rest.length < (skipComment (skipBlanks cs)).length := length_lt_of_newline? h
        _ ≤ (skipBlanks cs).length := length_skipComment_le _
        _ ≤ cs.length := length_skipBlanks_le cs
    skipLines rest
  | none => skipBlanks cs
  termination_by cs.length

/-! ## Texts -/

/-- The digit that `c` stands for to base sixteen. -/
def hexDigit? (c : Char) : Option Nat :=
  if c.isDigit then some (c.toNat - '0'.toNat)
  else if 'a' ≤ c && c ≤ 'f' then some (c.toNat - 'a'.toNat + 10)
  else if 'A' ≤ c && c ≤ 'F' then some (c.toNat - 'A'.toNat + 10)
  else none

/-- The number that `ds` spells to base sixteen. -/
def hexValue? (ds : List Char) : Option Nat :=
  ds.foldlM (fun n c => (hexDigit? c).map (n * 16 + ·)) 0

/-- The character with the code point that the first `count` of `cs` spell. -/
def codePoint? (count : Nat) (cs : List Char) : Option Char := do
  if cs.length < count then none
  else
    let n ← hexValue? (cs.take count)
    if h : n.isValidChar then some (Char.ofNatAux n h) else none

/-- The character that an escape stands for, and the number of characters that the escape has after
its backslash. -/
def escape? : List Char → Option (Char × Nat)
  | 'b' :: _ => some ('\x08', 1)
  | 'f' :: _ => some ('\x0c', 1)
  | 'n' :: _ => some ('\n', 1)
  | 'r' :: _ => some ('\r', 1)
  | 't' :: _ => some ('\t', 1)
  | '\\' :: _ => some ('\\', 1)
  | '\x22' :: _ => some ('\x22', 1)
  | 'u' :: cs => (codePoint? 4 cs).map fun c => (c, 5)
  | 'U' :: cs => (codePoint? 8 cs).map fun c => (c, 9)
  | _ => none

/-- The two kinds of quotes: `basic` texts take escapes, `literal` ones do not. -/
inductive Quotes
  | basic
  | literal
  deriving DecidableEq, Repr

/-- The quote character. -/
def Quotes.mark : Quotes → Char
  | basic => '\x22'
  | literal => '\x27'

/-- Whether a backslash starts an escape. -/
def Quotes.takesEscapes : Quotes → Bool
  | basic => true
  | literal => false

/-- Reads a text of one line after its first quote. -/
def readLineText (q : Quotes) : List Char → Option (List Char × List Char)
  | [] => none
  | c :: rest =>
    if c = q.mark then some ([], rest)
    else if q.takesEscapes && c = '\\' then
      match escape? rest with
      | none => none
      | some (e, used) => (readLineText q (rest.drop used)).map fun (s, r) => (e :: s, r)
    else if isPlain c then (readLineText q rest).map fun (s, r) => (c :: s, r)
    else none
  termination_by cs => cs.length
  decreasing_by all_goals simp only [List.length_drop, List.length_cons]; omega

/-- Skips blanks and line ends. -/
def skipEmpty (cs : List Char) : List Char :=
  match h : newline? (skipBlanks cs) with
  | some rest =>
    have : rest.length < cs.length :=
      Nat.lt_of_lt_of_le (length_lt_of_newline? h) (length_skipBlanks_le cs)
    skipEmpty rest
  | none => skipBlanks cs
  termination_by cs.length

/-- What follows a backslash at the end of a line, all blanks and line ends skipped. -/
def continuation? (cs : List Char) : Option (List Char) :=
  (newline? (skipBlanks cs)).map skipEmpty

/-- Reads a text of several lines after its three quotes, in at most `fuel` steps. One or two quotes
belong to the text; of three to five the last three end it. -/
def readLongTextFrom (q : Quotes) : Nat → List Char → Option (List Char × List Char)
  | 0, _ => none
  | fuel + 1, cs =>
    let quotes := cs.takeWhile (· = q.mark)
    let rest := cs.dropWhile (· = q.mark)
    if 5 < quotes.length then none
    else if 3 ≤ quotes.length then some (quotes.drop 3, rest)
    else
      match rest with
      | [] => none
      | c :: after =>
        if q.takesEscapes && c = '\\' then
          match continuation? after with
          | some next => (readLongTextFrom q fuel next).map fun (s, r) => (quotes ++ s, r)
          | none =>
            match escape? after with
            | none => none
            | some (e, used) =>
              (readLongTextFrom q fuel (after.drop used)).map fun (s, r) =>
                (quotes ++ e :: s, r)
        else
          match newline? rest with
          | some next => (readLongTextFrom q fuel next).map fun (s, r) => (quotes ++ '\n' :: s, r)
          | none =>
            if isPlain c then
              (readLongTextFrom q fuel after).map fun (s, r) => (quotes ++ c :: s, r)
            else none

/-- Reads a text of several lines after its three quotes. A line end right after them is not part of
it. -/
def readLongText (q : Quotes) (cs : List Char) : Option (List Char × List Char) :=
  let body := (newline? cs).getD cs
  readLongTextFrom q (body.length + 1) body

/-- Reads a text with quotes of the given kind. -/
def readQuoted (q : Quotes) : List Char → Option (List Char × List Char)
  | a :: b :: c :: rest =>
    if a = q.mark && b = q.mark && c = q.mark then readLongText q rest
    else if a = q.mark then readLineText q (b :: c :: rest)
    else none
  | a :: rest => if a = q.mark then readLineText q rest else none
  | [] => none

/-- Reads a text. -/
def readText (cs : List Char) : Option (List Char × List Char) :=
  match cs with
  | '\x22' :: _ => readQuoted .basic cs
  | '\x27' :: _ => readQuoted .literal cs
  | _ => none

/-! ## Numbers -/

/-- Whether underscores stand only between digits, and there is a digit. -/
def isGrouped (cs : List Char) : Bool :=
  cs.getLast? ≠ some '_' && cs.head? ≠ some '_' && !cs.isEmpty &&
    (cs.zip (cs.drop 1)).all fun p => p.1 ≠ '_' || p.2 ≠ '_'

/-- Reads a run of digits with underscores between them; the answer is without the underscores. -/
def readDigits (isDigit : Char → Bool) (cs : List Char) : Option (List Char × List Char) :=
  let isPart := fun c => isDigit c || c = '_'
  let run := cs.takeWhile isPart
  if isGrouped run then some (run.filter (· ≠ '_'), cs.dropWhile isPart) else none

/-- The number that `ds` spells to the given base. -/
def digitsValueTo (base : Nat) (ds : List Char) : Nat :=
  ds.foldl (fun n c => n * base + (hexDigit? c).getD 0) 0

/-- A whole number, if it is a signed 64-bit one. -/
def bounded? (n : Int) : Option Value :=
  if Int64.minValue.toInt ≤ n ∧ n ≤ Int64.maxValue.toInt then some (.integer n) else none

/-- Reads a whole number to another base than ten after its mark. -/
def readBased (base : Nat) (isDigit : Char → Bool) (cs : List Char) :
    Option (Value × List Char) := do
  let (ds, rest) ← readDigits isDigit cs
  let v ← bounded? (digitsValueTo base ds)
  return (v, rest)

/-- Reads the part of a float after its decimal point, the point included; there may be none. -/
def readFraction : List Char → Option (List Char × List Char)
  | '.' :: cs => readDigits Char.isDigit cs
  | cs => some ([], cs)

/-- Reads the exponent of a float, its mark included; there may be none. -/
def readExponent : List Char → Option (Int × List Char)
  | [] => some (0, [])
  | mark :: cs =>
    if mark = 'e' || mark = 'E' then do
      let (negative, cs) := Decimal.takeSign cs
      let (ds, rest) ← readDigits Char.isDigit cs
      let n : Int := Decimal.digitsValue 0 ds
      return (if negative then -n else n, rest)
    else some (0, mark :: cs)

/-- Whether a float starts with `.` or an exponent after its whole digits. -/
def startsFloat : List Char → Bool
  | c :: _ => c = '.' || c = 'e' || c = 'E'
  | [] => false

/-- Reads a number to base ten after its sign. Zeros in front are refused, and so are floats above
the largest one. -/
def readDecimal (negative : Bool) (cs : List Char) : Option (Value × List Char) := do
  let (whole, rest) ← readDigits Char.isDigit cs
  if whole.head? = some '0' && 1 < whole.length then none
  else if startsFloat rest then do
    let (fraction, rest) ← readFraction rest
    let (e, rest) ← readExponent rest
    let x := Decimal.nearest negative (Decimal.digitsValue 0 (whole ++ fraction))
      (e - fraction.length)
    if !negative && x.bits = Binary64.infinityBits then none
    else return (.real x, rest)
  else do
    let n : Int := Decimal.digitsValue 0 whole
    let v ← bounded? (if negative then -n else n)
    return (v, rest)

/-- Reads a number after its sign: digits, or one of the words `inf` and `nan`. -/
def readSigned (negative : Bool) (cs : List Char) : Option (Value × List Char) :=
  match cs with
  | 'i' :: 'n' :: 'f' :: rest =>
    some (.real ⟨Binary64.withSign negative Binary64.infinityBits⟩, rest)
  | 'n' :: 'a' :: 'n' :: rest =>
    some (.real ⟨Binary64.withSign negative Binary64.nanBits⟩, rest)
  | _ => readDecimal negative cs

/-- Whether `c` is a digit to base eight. -/
def isOctal (c : Char) : Bool :=
  '0' ≤ c && c ≤ '7'

/-- Whether `c` is a digit to base two. -/
def isBinary (c : Char) : Bool :=
  c = '0' || c = '1'

/-- Reads a number. -/
def readNumber (cs : List Char) : Option (Value × List Char) :=
  match cs with
  | '0' :: 'x' :: rest => readBased 16 (fun c => (hexDigit? c).isSome) rest
  | '0' :: 'o' :: rest => readBased 8 isOctal rest
  | '0' :: 'b' :: rest => readBased 2 isBinary rest
  | _ =>
    let (negative, body) := Decimal.takeSign cs
    readSigned negative body

/-! ## Dates and times -/

/-- Reads exactly `count` digits. -/
def readFixed (count : Nat) (cs : List Char) : Option (Nat × List Char) :=
  let ds := cs.take count
  if ds.length = count && ds.all Char.isDigit then
    some (Decimal.digitsValue 0 ds, cs.drop count)
  else none

/-- Takes the character `c` off the front. -/
def expect (c : Char) : List Char → Option (List Char)
  | [] => none
  | d :: rest => if d = c then some rest else none

/-- Whether a year has a leap day. -/
def isLeapYear (year : Nat) : Bool :=
  year % 4 = 0 && (year % 100 ≠ 0 || year % 400 = 0)

/-- The number of days of a month. -/
def daysInMonth (year month : Nat) : Nat :=
  if month = 2 then if isLeapYear year then 29 else 28
  else if month = 4 || month = 6 || month = 9 || month = 11 then 30
  else 31

/-- Reads a day of the calendar. -/
def readDay (cs : List Char) : Option (Day × List Char) := do
  let (year, cs) ← readFixed 4 cs
  let (month, cs) ← readFixed 2 (← expect '-' cs)
  let (day, cs) ← readFixed 2 (← expect '-' cs)
  if 1 ≤ month && month ≤ 12 && 1 ≤ day && day ≤ daysInMonth year month then
    return (⟨year, month, day⟩, cs)
  else none

/-- Reads an hour and a minute. -/
def readHourMinute (cs : List Char) : Option ((Nat × Nat) × List Char) := do
  let (hour, cs) ← readFixed 2 cs
  let (minute, cs) ← readFixed 2 (← expect ':' cs)
  if hour < 24 && minute < 60 then return ((hour, minute), cs) else none

/-- Reads the digits of a fraction of a second; there may be none. -/
def readSecondFraction (cs : List Char) : List Char × List Char :=
  match cs with
  | '.' :: rest =>
    let ds := rest.takeWhile Char.isDigit
    if ds.isEmpty then ([], cs) else (ds, rest.dropWhile Char.isDigit)
  | _ => ([], cs)

/-- Reads a time of day. A minute may have a leap second. -/
def readClock (cs : List Char) : Option (Clock × List Char) := do
  let ((hour, minute), cs) ← readHourMinute cs
  let (second, cs) ← readFixed 2 (← expect ':' cs)
  let (fraction, cs) := readSecondFraction cs
  if second ≤ 60 then return (⟨hour, minute, second, fraction⟩, cs) else none

/-- Reads an offset in minutes; there may be none. -/
def readOffset : List Char → Option (Option Int × List Char)
  | [] => some (none, [])
  | c :: cs =>
    if c = 'Z' || c = 'z' then some (some 0, cs)
    else if c = '+' || c = '-' then do
      let ((hour, minute), rest) ← readHourMinute cs
      let total : Int := hour * 60 + minute
      return (some (if c = '-' then -total else total), rest)
    else some (none, c :: cs)

/-- Whether a time of day starts here: two digits and a colon. -/
def startsClock (cs : List Char) : Bool :=
  (cs.take 2).all Char.isDigit && cs[2]? = some ':'

/-- Whether a day starts here: four digits and a hyphen. -/
def startsDay (cs : List Char) : Bool :=
  (cs.take 4).all Char.isDigit && cs[4]? = some '-'

/-- Whether `c` may stand between a day and a time of day. -/
def isDaySeparator (c : Char) : Bool :=
  c = 'T' || c = 't' || c = ' '

/-- Reads a day, and the time of day and offset that follow it, if any. -/
def readDayTime (cs : List Char) : Option (Moment × List Char) := do
  let (day, rest) ← readDay cs
  match rest with
  | [] => return (⟨some day, none, none⟩, [])
  | c :: after =>
    if isDaySeparator c && startsClock after then do
      let (clock, rest) ← readClock after
      let (offset, rest) ← readOffset rest
      return (⟨some day, some clock, offset⟩, rest)
    else return (⟨some day, none, none⟩, c :: after)

/-- Reads a date or a time; nothing when neither starts here. -/
def readMoment (cs : List Char) : Option (Moment × List Char) :=
  if startsDay cs then readDayTime cs
  else do
    let (clock, rest) ← readClock cs
    return (⟨none, some clock, none⟩, rest)

end MarketBridge.Toml
