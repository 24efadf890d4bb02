/-!
# `Double` — floats kept by their bits

A `Double` is one of the `2 ^ 64` bit patterns of a float. What is only stored and handed on keeps
its pattern, the sign and the payload of a NaN included, and two are equal just if their bits are.
Comparisons and arithmetic are those of the numbers that the patterns stand for. A result of
arithmetic that is not a number has no pattern of its own to keep, and is always the same one.
-/

namespace MarketBridge

/-- A float by its sixty-four bits. -/
structure Double where
  bits : UInt64
  deriving DecidableEq, Repr, Inhabited

namespace Double

/-- The number that the bits stand for. -/
def value (x : Double) : Float :=
  Float.ofBits x.bits

/-- The bits of a number. -/
def ofValue (value : Float) : Double :=
  ⟨value.toBits⟩

/-- The float nearest to a word. -/
def ofWord (n : UInt64) : Double :=
  .ofValue n.toFloat

/-- Whether the bits stand for a number that is not infinite. -/
def isFinite (x : Double) : Bool :=
  x.value.isFinite

/-- Whether the bits stand for no number. -/
def isNaN (x : Double) : Bool :=
  x.value.isNaN

instance : OfScientific Double where
  ofScientific digits negative exponent :=
    .ofValue (OfScientific.ofScientific digits negative exponent)

/-- The float with the other sign bit. -/
instance : Neg Double where
  neg x := ⟨x.bits ^^^ 0x8000000000000000⟩

instance : Add Double where
  add x y := .ofValue (x.value + y.value)

instance : Sub Double where
  sub x y := .ofValue (x.value - y.value)

instance : Mul Double where
  mul x y := .ofValue (x.value * y.value)

instance : Div Double where
  div x y := .ofValue (x.value / y.value)

instance : LT Double where
  lt x y := x.value < y.value

instance : LE Double where
  le x y := x.value ≤ y.value

instance (x y : Double) : Decidable (x < y) :=
  inferInstanceAs (Decidable (x.value < y.value))

instance (x y : Double) : Decidable (x ≤ y) :=
  inferInstanceAs (Decidable (x.value ≤ y.value))

end Double

end MarketBridge
