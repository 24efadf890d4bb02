import MarketBridge.Double

/-!
# `Decimal.Binary64` — floats as exact fractions, and fractions rounded to floats

A finite float is a sign, a natural number and a power of two. `Binary64.ofDouble` takes the three
out of the bit pattern, and `Binary64.roundFraction` goes the other way: it gives the bit pattern
of the float nearest to a positive fraction, a tie going to the even significand.
-/

namespace MarketBridge

/-- What the bits of a float say. A finite one is `significand * 2 ^ exponent`. -/
inductive Binary64
  | nan
  | infinite (negative : Bool)
  | finite (negative : Bool) (significand : Nat) (exponent : Int)
  deriving DecidableEq, Repr

namespace Binary64

/-- The exponent of the smallest positive float. -/
def minExponent : Int := -1074

/-- The number of values of the fraction field. -/
def fractionSpan : Nat := Nat.pow 2 52

/-- Reads the sign, exponent and fraction fields of a bit pattern. -/
def ofBits (bits : UInt64) : Binary64 :=
  let n := bits.toNat
  let negative := Nat.pow 2 63 ≤ n
  let field := n / fractionSpan % 2048
  let fraction := n % fractionSpan
  if field = 2047 then
    if fraction = 0 then .infinite negative else .nan
  else if field = 0 then .finite negative fraction minExponent
  else .finite negative (fractionSpan + fraction) (minExponent + (field - 1 : Nat))

/-- The parts of `x`. -/
def ofDouble (x : Double) : Binary64 :=
  ofBits x.bits

/-- Rounds `num / den` to the nearest natural number, a tie to the even one. -/
def roundHalfEven (num den : Nat) : Nat :=
  let q := num / den
  let r := num % den
  if 2 * r < den then q
  else if den < 2 * r then q + 1
  else if q % 2 = 0 then q else q + 1

/-- The fraction `num / (den * 2 ^ e)` as a pair of natural numbers. -/
def scaleDown (num den : Nat) (e : Int) : Nat × Nat :=
  if 0 ≤ e then (num, den * Nat.pow 2 e.toNat) else (num * Nat.pow 2 (-e).toNat, den)

/-- The power of two that one unit of the significand is worth when `num / den` is written with
fifty-three binary digits, or with as many as the smallest exponent leaves. -/
def unitExponent (num den : Nat) : Int :=
  let guess : Int := (num.log2 : Int) - (den.log2 : Int) - 52
  let (a, b) := scaleDown num den guess
  let e := if a < b * fractionSpan then guess - 1 else guess
  max e minExponent

/-- The bits of the positive float nearest to `num / den`, both positive. Beyond the largest finite
float the answer is infinity. -/
def roundFraction (num den : Nat) : UInt64 :=
  let e := unitExponent num den
  let (a, b) := scaleDown num den e
  let bits := (e - minExponent).toNat * fractionSpan + roundHalfEven a b
  let infinity := 2047 * fractionSpan
  UInt64.ofNat (min bits infinity)

/-- The bit pattern with the sign bit set when `negative`. -/
def withSign (negative : Bool) (bits : UInt64) : UInt64 :=
  if negative then bits ||| 0x8000000000000000 else bits

/-- The bits of infinity. -/
def infinityBits : UInt64 := 0x7FF0000000000000

/-- The bits of the value that is not a number. -/
def nanBits : UInt64 := 0x7FF8000000000000

end Binary64

end MarketBridge
