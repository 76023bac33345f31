/-!
# Finite doubles

The finite numbers of the 64-bit binary format, kept exactly.  Every one of them is a multiple of
2⁻¹⁰⁷⁴, so a number is a sign and a count of such units, and arithmetic is arithmetic on natural
numbers followed by one rounding.

## Main definitions

* `Binary64` — a sign and a number of units of 2⁻¹⁰⁷⁴;
* `Binary64.spacing` — the exponent of the distance between neighbouring numbers;
* `Binary64.roundUnits` — nearest representable number of units, a tie going to the even neighbour;
* `Binary64.mul?`, `Binary64.div?`, `Binary64.ofNat?` — rounded arithmetic, `none` when the result
  lies beyond the greatest finite number.
-/

namespace JobImages

/-- A finite double.  Zero has two signs. -/
structure Binary64 where
  /-- Whether the sign is set, which it may be for zero too. -/
  negative : Bool
  /-- The magnitude as a multiple of 2⁻¹⁰⁷⁴. -/
  units : Nat
  deriving DecidableEq

namespace Binary64

/-- The number of units in one. -/
def one : Nat := Nat.pow 2 1074

/-- The least number of units that is too great for a finite double. -/
def overflow : Nat := Nat.pow 2 2098

/-- Neighbours of a magnitude with that many units are `2 ^ spacing` units apart, since a
significand has 53 bits. -/
def spacing (units : Nat) : Nat :=
  units.log2 - 52

/-- The natural number nearest to a quotient; of two equally near, the even one. -/
def roundHalfEven (numerator denominator : Nat) : Nat :=
  let quotient := numerator / denominator
  let twice := 2 * (numerator % denominator)
  if twice < denominator then quotient
  else if denominator < twice then quotient + 1
  else quotient + quotient % 2

/-- The representable number of units nearest to a quotient, a tie going to the even significand. -/
def roundUnits (numerator denominator : Nat) : Nat :=
  let grain := Nat.pow 2 (spacing (numerator / denominator))
  roundHalfEven numerator (denominator * grain) * grain

/-- The double nearest to a quotient of units, unless that is beyond the finite ones. -/
def ofUnits? (negative : Bool) (numerator denominator : Nat) : Option Binary64 :=
  let units := roundUnits numerator denominator
  if units < overflow then some { negative, units } else none

/-- The double nearest to a natural number. -/
def ofNat? (n : Nat) : Option Binary64 :=
  ofUnits? false (n * one) 1

/-- The rounded product. -/
def mul? (x y : Binary64) : Option Binary64 :=
  ofUnits? (x.negative != y.negative) (x.units * y.units) one

/-- The rounded quotient; there is none by zero. -/
def div? (x y : Binary64) : Option Binary64 :=
  if y.units = 0 then none
  else ofUnits? (x.negative != y.negative) (x.units * one) y.units

/-- The number with the opposite sign. -/
def neg (x : Binary64) : Binary64 :=
  { x with negative := !x.negative }

/-- Whether the number is zero, of either sign. -/
def isZero (x : Binary64) : Bool :=
  x.units == 0

/-- Equality of value: the two zeros are one number. -/
def sameValue (x y : Binary64) : Bool :=
  x.units == y.units && (x.negative == y.negative || x.units == 0)

end Binary64

end JobImages
