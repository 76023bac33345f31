import JobImages.Json.Basic

/-!
# The number that a literal denotes

A literal without point and exponent that fits a 64-bit word is that integer.  Every other literal
is read as a double in two roundings: its digits are collected in a 64-bit significand while they
fit, the significand is rounded to a double, and that is multiplied or divided by a power of ten.
The result may differ in its last bit from the double nearest to the literal.

## Main definitions

* `Json.Literal` — the parts of a number literal, as written;
* `Json.Significand.collect` — the digits that fit a 64-bit word;
* `Json.timesPowerOfTen?` — the multiplication or division, `none` beyond the finite doubles;
* `Json.Literal.number?` — the number.
-/

namespace JobImages.Json

/-- The exponent part of a number literal. -/
structure Literal.Exponent where
  /-- Whether it has a minus sign. -/
  negative : Bool
  /-- Its digits, at least one. -/
  digits : List Char

/-- A number literal. -/
structure Literal where
  /-- Whether it begins with a minus sign. -/
  negative : Bool
  /-- The digits before the point, at least one. -/
  whole : List Char
  /-- The digits after the point, if there is one. -/
  fraction : Option (List Char)
  /-- The exponent part, if there is one. -/
  exponent : Option Literal.Exponent

/-- The value of a decimal digit. -/
def digitValue (digit : Char) : Nat :=
  digit.toNat - '0'.toNat

/-- The natural number that digits denote. -/
def digitsValue (digits : List Char) : Nat :=
  digits.foldl (fun value digit => value * 10 + digitValue digit) 0

/-- A significand under collection. -/
structure Significand where
  /-- The digits collected. -/
  value : Nat
  /-- How many digits at the end were left out. -/
  left : Nat

/-- Appends digits to a significand as long as it stays below 2⁶⁴; from the first digit that does
not fit on, they are left out. -/
def Significand.collect (value : Nat) : List Char → Significand
  | [] => { value, left := 0 }
  | digit :: rest =>
    let next := value * 10 + digitValue digit
    if next < 0x10000000000000000 then collect next rest else { value, left := rest.length + 1 }

/-- The digits of an exponent read into a signed 32-bit word: the value, or the number of digits
that follow the one at which it overflows. -/
def boundedExponent (value : Nat) : List Char → Except Nat Nat
  | [] => .ok value
  | digit :: rest =>
    let next := value * 10 + digitValue digit
    if next < 0x80000000 then boundedExponent next rest else .error rest.length

/-- The greatest power of ten that is multiplied by at once. -/
def greatestPower : Nat := 308

/-- The double nearest to a power of ten, for an exponent up to `greatestPower`. -/
def powerOfTen (exponent : Nat) : Binary64 :=
  { negative := false, units := Binary64.roundUnits (Nat.pow 10 exponent * Binary64.one) 1 }

/-- Divides by a power of ten, in `steps` divisions by the greatest power and one by what is left
of the exponent. -/
def overPowerOfTen? : Nat → Binary64 → Nat → Option Binary64
  | 0, x, exponent => x.div? (powerOfTen exponent)
  | steps + 1, x, exponent =>
    -- Once the quotient has become zero, further divisions leave it.
    if x.isZero then some x
    else
      (x.div? (powerOfTen greatestPower)).bind fun quotient =>
        overPowerOfTen? steps quotient (exponent - greatestPower)

/-- A double times a power of ten, unless that is beyond the finite doubles. -/
def timesPowerOfTen? (x : Binary64) (exponent : Int) : Option Binary64 :=
  if exponent < 0 then
    overPowerOfTen? ((exponent.natAbs - 1) / greatestPower) x exponent.natAbs
  else if exponent ≤ greatestPower then
    x.mul? (powerOfTen exponent.toNat)
  else if x.isZero then some x
  else none

namespace Literal

/-- The literal's significand and the power of ten it counts, before the exponent part. -/
def scaled (literal : Literal) : Nat × Int :=
  let whole := Significand.collect 0 literal.whole
  let fraction := literal.fraction.getD []
  let all := Significand.collect whole.value fraction
  (all.value, (whole.left : Int) - (fraction.length - all.left : Nat))

/-- The number of digits of the exponent that are not looked at, because those before them make the
number too great already. -/
def unreadDigits (literal : Literal) : Nat :=
  match literal.exponent with
  | some exponent =>
    match boundedExponent 0 exponent.digits with
    | .error left => if exponent.negative || literal.scaled.1 == 0 then 0 else left
    | .ok _ => 0
  | none => 0

/-- A double of the literal's sign. -/
def signed (literal : Literal) (x : Binary64) : Binary64 :=
  if literal.negative then x.neg else x

/-- The literal as a double, unless it is too great. -/
def real? (literal : Literal) : Option Binary64 :=
  let (significand, power) := literal.scaled
  let zero : Binary64 := { negative := false, units := 0 }
  let magnitude? (power : Int) : Option Binary64 :=
    match Binary64.ofNat? significand with
    | some x => timesPowerOfTen? x power
    | none => none
  let result :=
    match literal.exponent with
    | none => magnitude? power
    | some exponent =>
      match boundedExponent 0 exponent.digits with
      | .ok value => magnitude? (if exponent.negative then power - value else power + value)
      -- An exponent beyond the word leaves zero, or nothing finite.
      | .error _ => if exponent.negative || significand == 0 then some zero else none
  result.map literal.signed

/-- The literal as an exact integer: it has neither point nor exponent, fits a word, and is not
minus zero. -/
def integer? (literal : Literal) : Option Integer :=
  match literal.fraction, literal.exponent with
  | none, none =>
    let value := digitsValue literal.whole
    if literal.negative then
      if value = 0 then none else Integer.ofInt? (-(value : Int))
    else Integer.ofInt? value
  | _, _ => none

/-- The number that the literal denotes, unless it is too great for a double. -/
def number? (literal : Literal) : Option Number :=
  match literal.integer? with
  | some n => some (.integer n)
  | none => literal.real?.map .real

end Literal

end JobImages.Json
