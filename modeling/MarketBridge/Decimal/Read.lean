import MarketBridge.Decimal.Binary64

/-!
# `Decimal.Read` — numbers read from text

`readFloat?` accepts an optional sign and then digits with an optional point and exponent, or one of
the words `inf`, `infinity` and `nan` in any case; the result is the float nearest to what is
written. `readByte?` accepts an optional plus sign and digits whose value fits a byte.
-/

namespace MarketBridge.Decimal

/-- The number that the decimal digits `ds` spell, continuing from `n`. -/
def digitsValue (n : Nat) (ds : List Char) : Nat :=
  ds.foldl (fun acc c => acc * 10 + (c.toNat - '0'.toNat)) n

/-- The bits of the nonnegative float nearest to `digits * 10 ^ exponent`. Magnitudes far outside
the range of floats are settled by the position of the first digit alone. -/
def nearestBits (digits : Nat) (exponent : Int) : UInt64 :=
  if digits = 0 then 0
  else
    let e := ((Nat.toDigits 10 digits).length : Int) + exponent
    if 400 < e then Binary64.infinityBits
    else if e < -400 then 0
    else if 0 ≤ exponent then Binary64.roundFraction (digits * Nat.pow 10 exponent.toNat) 1
    else Binary64.roundFraction digits (Nat.pow 10 (-exponent).toNat)

/-- The float nearest to `digits * 10 ^ exponent`, with the given sign. -/
def nearest (negative : Bool) (digits : Nat) (exponent : Int) : Double :=
  ⟨Binary64.withSign negative (nearestBits digits exponent)⟩

/-- Takes a sign off the front; `true` stands for minus. -/
def takeSign : List Char → Bool × List Char
  | '-' :: rest => (true, rest)
  | '+' :: rest => (false, rest)
  | cs => (false, cs)

/-- Reads `cs`, all of it, as an exponent part: nothing at all, or a mark, a sign and digits. -/
def readExponent? : List Char → Option Int
  | [] => some 0
  | mark :: rest =>
    if mark = 'e' || mark = 'E' then
      let (negative, ds) := takeSign rest
      if ds.isEmpty || !ds.all Char.isDigit then none
      else
        let n : Int := digitsValue 0 ds
        some (if negative then -n else n)
    else none

/-- Reads `cs`, all of it, as digits with an optional point and an optional exponent. -/
def readDecimal? (cs : List Char) : Option (Nat × Int) := do
  let whole := cs.takeWhile Char.isDigit
  let afterWhole := cs.dropWhile Char.isDigit
  let (fraction, rest) :=
    match afterWhole with
    | '.' :: more => (more.takeWhile Char.isDigit, more.dropWhile Char.isDigit)
    | more => ([], more)
  if whole.isEmpty && fraction.isEmpty then none
  else
    let e ← readExponent? rest
    some (digitsValue 0 (whole ++ fraction), e - (fraction.length : Int))

/-- Reads the whole of `cs` as a float. -/
def readFloat? (cs : List Char) : Option Double :=
  let (negative, body) := takeSign cs
  let word := String.ofList (body.map Char.toLower)
  if word = "inf" || word = "infinity" then
    some ⟨Binary64.withSign negative Binary64.infinityBits⟩
  else if word = "nan" then some ⟨Binary64.withSign negative Binary64.nanBits⟩
  else (readDecimal? body).map fun d => nearest negative d.1 d.2

/-- Reads the whole of `cs` as a number from 0 to 255. -/
def readByte? (cs : List Char) : Option UInt8 :=
  let ds := match cs with
    | '+' :: rest => rest
    | _ => cs
  if ds.isEmpty || !ds.all Char.isDigit then none
  else
    let n := digitsValue 0 ds
    if n < 256 then some (UInt8.ofNat n) else none

end MarketBridge.Decimal
