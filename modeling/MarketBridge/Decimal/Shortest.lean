import MarketBridge.Decimal.Binary64

/-!
# `Decimal.Shortest` — the fewest decimal digits that read back

The reals that round to a float form an interval around it, its ends included exactly when the
significand is even. Of all decimals in that interval `shortest` takes one with the fewest digits,
of those the nearest to the float, and of two equally near the one that a `Tie` names. The grids of
multiples of `10 ^ k` are tried from coarse to fine; on each only the two neighbours of the float
matter.
-/

namespace MarketBridge.Decimal

/-- Which of two equally near decimals is taken. -/
inductive Tie where
  | larger
  | even
  deriving DecidableEq, Repr

/-- The decimal taken of two equally near ones, `below` and `below + 1`. -/
def Tie.choose (tie : Tie) (below : Nat) : Nat :=
  match tie with
  | larger => below + 1
  | even => below + below % 2

/-- A decimal `digits * 10 ^ exponent`. -/
structure Scaled where
  digits : Nat
  exponent : Int
  deriving DecidableEq, Repr

/-- The interval of reals that round to one float. All three points count quarter units of the last
place of the float: `lower ≤ value ≤ upper`, and a quarter unit is worth `2 ^ exponent`. -/
structure Rounding where
  lower : Nat
  value : Nat
  upper : Nat
  exponent : Int
  closed : Bool

/-- The rounding interval of the float `significand * 2 ^ exponent`. Below a power of two the
floats lie twice as dense, so the interval is shorter on that side. -/
def Rounding.ofFinite (significand : Nat) (exponent : Int) : Rounding where
  lower :=
    if significand = Binary64.fractionSpan && Binary64.minExponent < exponent then
      4 * significand - 1
    else 4 * significand - 2
  value := 4 * significand
  upper := 4 * significand + 2
  exponent := exponent - 2
  closed := significand % 2 = 0

/-- The fraction `2 ^ e / 10 ^ k` as a pair of natural numbers. -/
def gridRatio (e k : Int) : Nat × Nat :=
  (Nat.pow 2 e.toNat * Nat.pow 10 (-k).toNat, Nat.pow 2 (-e).toNat * Nat.pow 10 k.toNat)

/-- Whether `c * 10 ^ k` lies in the interval, `num / den` being the ratio of the two grids. -/
def Rounding.contains (r : Rounding) (num den c : Nat) : Bool :=
  if r.closed then r.lower * num ≤ c * den && c * den ≤ r.upper * num
  else r.lower * num < c * den && c * den < r.upper * num

/-- The multiple of `10 ^ k` in the interval that is nearest to the float, if there is one. -/
def Rounding.onGrid? (r : Rounding) (tie : Tie) (k : Int) : Option Nat :=
  let (num, den) := gridRatio r.exponent k
  let below := r.value * num / den
  let above := below + 1
  let fits := r.contains num den
  if fits below && fits above then
    let under := r.value * num - below * den
    let beyond := above * den - r.value * num
    if under < beyond then some below
    else if beyond < under then some above
    else some (tie.choose below)
  else if fits below then some below
  else if fits above then some above
  else none

/-- The first grid from `10 ^ k` downwards, of at most `fuel` grids, that meets the interval. -/
def Rounding.search (r : Rounding) (tie : Tie) : Nat → Int → Option Scaled
  | 0, _ => none
  | fuel + 1, k =>
    match r.onGrid? tie k with
    | some c => some ⟨c, k⟩
    | none => r.search tie fuel (k - 1)

/-- A `k` such that the positive number `significand * 2 ^ exponent` lies below `10 ^ k`, and not
far below. -/
def coarsestGrid (significand : Nat) (exponent : Int) : Int :=
  ((significand.log2 : Int) + exponent + 1) * 30103 / 100000 + 1

/-- Grids tried before giving up: the seventeenth digit always suffices. -/
def gridCount : Nat := 24

/-- The shortest decimal that reads back as the positive float `significand * 2 ^ exponent`. -/
def shortest (tie : Tie) (significand : Nat) (exponent : Int) : Scaled :=
  ((Rounding.ofFinite significand exponent).search tie gridCount
    (coarsestGrid significand exponent)).getD ⟨significand, 0⟩

end MarketBridge.Decimal
