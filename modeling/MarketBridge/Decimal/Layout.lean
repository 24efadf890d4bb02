import MarketBridge.Decimal.Shortest

/-!
# `Decimal.Layout` — how floats are written

All texts of a float use its shortest digits and differ in a few decisions, held in a `Layout`:
which of two equally near decimals is taken, whether a whole number keeps `.0`, below and from which
power of ten the exponent form is used, and whether a positive exponent shows its sign. The library
has four of them, `plain`, `structural`, `document` and `pointed`.
-/

namespace MarketBridge.Decimal

/-- The decisions of one way to write floats. A number `d.ddd * 10 ^ e` is written with an exponent
when `e` is less than `positionalFrom` or not less than `exponentFrom`. -/
structure Layout where
  tie : Tie
  keepsPoint : Bool
  positionalFrom : Option Int
  exponentFrom : Option Int
  signsExponent : Bool
  deriving DecidableEq, Repr

/-- Numbers in sentences: no exponent ever, and nothing after a whole number. -/
def Layout.plain : Layout where
  tie := .larger
  keepsPoint := false
  positionalFrom := none
  exponentFrom := none
  signsExponent := false

/-- Numbers inside the one-line text of a value: a point always, an exponent below `0.0001` and from
`1e16` on. -/
def Layout.structural : Layout where
  tie := .larger
  keepsPoint := true
  positionalFrom := some (-4)
  exponentFrom := some 16
  signsExponent := false

/-- Numbers quoted from a document: a point always, an exponent below `0.00001` and from `1e+16`
on. -/
def Layout.document : Layout where
  tie := .even
  keepsPoint := true
  positionalFrom := some (-5)
  exponentFrom := some 16
  signsExponent := true

/-- Numbers quoted from a configuration text: a point always and no exponent. -/
def Layout.pointed : Layout where
  tie := .larger
  keepsPoint := true
  positionalFrom := none
  exponentFrom := none
  signsExponent := false

/-- Whether a number whose first digit counts `10 ^ e` takes the exponent form. -/
def Layout.usesExponent (l : Layout) (e : Int) : Bool :=
  (match l.positionalFrom with
    | some b => e < b
    | none => false) ||
  (match l.exponentFrom with
    | some b => b ≤ e
    | none => false)

/-- A run of `n` zeros. -/
def zeros (n : Nat) : String :=
  String.ofList (List.replicate n '0')

/-- The digits `ds`, of which the first counts `10 ^ e`, written out in full. -/
def positional (keepsPoint : Bool) (ds : List Char) (e : Int) : String :=
  if e < 0 then "0." ++ zeros (-e - 1).toNat ++ String.ofList ds
  else
    let whole := e.toNat + 1
    if ds.length ≤ whole then
      String.ofList ds ++ zeros (whole - ds.length) ++ (if keepsPoint then ".0" else "")
    else String.ofList (ds.take whole) ++ "." ++ String.ofList (ds.drop whole)

/-- The digits `ds` with a point after the first, and the exponent `e`, which shows a plus sign if
`signsExponent` says so. -/
def scientific (signsExponent : Bool) (ds : List Char) (e : Int) : String :=
  let mantissa :=
    match ds with
    | [] => ""
    | [d] => String.ofList [d]
    | d :: rest => String.ofList (d :: '.' :: rest)
  mantissa ++ "e" ++ (if signsExponent && 0 ≤ e then "+" else "") ++ toString e

/-- The text of a finite float without its sign. -/
def Layout.magnitude (l : Layout) (significand : Nat) (exponent : Int) : String :=
  if significand = 0 then positional l.keepsPoint ['0'] 0
  else
    let s := shortest l.tie significand exponent
    let ds := Nat.toDigits 10 s.digits
    let e := s.exponent + (ds.length : Int) - 1
    if l.usesExponent e then scientific l.signsExponent ds e
    else positional l.keepsPoint ds e

/-- The text of `x`. -/
def Layout.write (l : Layout) (x : Double) : String :=
  match Binary64.ofDouble x with
  | .nan => "NaN"
  | .infinite negative => if negative then "-inf" else "inf"
  | .finite negative m q => (if negative then "-" else "") ++ l.magnitude m q

end MarketBridge.Decimal
