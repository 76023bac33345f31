import JobImages.Json.Basic
import JobImages.Binary64.Shortest

/-!
# Writing JSON

The compact text of a value: no blanks, members and elements in order.  A string escapes the quote,
the backslash and the controls and nothing else; a double has the fewest digits that read back.

## Main definitions

* `Json.escape` — what is written for one character of a string;
* `Json.writeReal` — a double, positional when its decimal exponent is near zero;
* `Json.write` — the characters of a value;
* `Json.print` — its text.
-/

namespace JobImages.Json

/-- The decimal digits of a natural number. -/
def decimal (n : Nat) : List Char :=
  Nat.toDigits 10 n

/-- A control without a short escape is written by its code point in four hexadecimal digits. -/
def escapeCode (c : Char) : List Char :=
  let digits := Nat.toDigits 16 c.toNat
  ['\\', 'u'] ++ List.replicate (4 - digits.length) '0' ++ digits

/-- What a string literal holds for one character. -/
def escape (c : Char) : List Char :=
  match c with
  | '"' => ['\\', '"']
  | '\\' => ['\\', '\\']
  | '\x08' => ['\\', 'b']
  | '\x0c' => ['\\', 'f']
  | '\n' => ['\\', 'n']
  | '\r' => ['\\', 'r']
  | '\t' => ['\\', 't']
  | c => if c.toNat < 0x20 then escapeCode c else [c]

/-- A string literal. -/
def writeString (text : String) : List Char :=
  '"' :: text.toList.flatMap escape ++ ['"']

/-- An integer in decimal. -/
def writeInteger (n : Integer) : List Char :=
  if n.value < 0 then '-' :: decimal n.value.natAbs else decimal n.value.natAbs

/-- The least decimal exponent that is written positionally. -/
def leastPositional : Int := -5

/-- The greatest decimal exponent that is written positionally. -/
def greatestPositional : Int := 15

/-- A decimal with its point: positional, with at least one digit on both sides, when the exponent
of its first digit is near zero; else one digit, the others behind the point if there are any, and
the exponent with its sign. -/
def writeDecimal (value : Decimal) : List Char :=
  let digits := decimal value.digits
  let first := value.exponent + digits.length - 1
  if leastPositional ≤ first && first ≤ greatestPositional then
    if 0 ≤ value.exponent then
      digits ++ List.replicate value.exponent.toNat '0' ++ ['.', '0']
    else if 0 ≤ first then
      let whole := (first + 1).toNat
      digits.take whole ++ '.' :: digits.drop whole
    else
      ['0', '.'] ++ List.replicate (-first - 1).toNat '0' ++ digits
  else
    let point := if digits.length = 1 then [] else ['.']
    let sign := if first < 0 then '-' else '+'
    digits.take 1 ++ point ++ digits.drop 1 ++ 'e' :: sign :: decimal first.natAbs

/-- A double.  Zero keeps its sign and its point. -/
def writeReal (x : Binary64) : List Char :=
  let magnitude := if x.isZero then ['0', '.', '0'] else writeDecimal (Binary64.shortest x.units)
  if x.negative then '-' :: magnitude else magnitude

/-- A number. -/
def writeNumber : Number → List Char
  | .integer n => writeInteger n
  | .real x => writeReal x

mutual

/-- The characters of a value. -/
def write : Json → List Char
  | .null => ['n', 'u', 'l', 'l']
  | .bool true => ['t', 'r', 'u', 'e']
  | .bool false => ['f', 'a', 'l', 's', 'e']
  | .number n => writeNumber n
  | .string text => writeString text
  | .array items => '[' :: writeItems items ++ [']']
  | .object members => '\x7b' :: writeMembers members ++ ['\x7d']

/-- Elements between commas. -/
def writeItems : List Json → List Char
  | [] => []
  | [item] => write item
  | item :: rest => write item ++ ',' :: writeItems rest

/-- Members between commas. -/
def writeMembers : List (String × Json) → List Char
  | [] => []
  | [(key, value)] => writeString key ++ ':' :: write value
  | (key, value) :: rest => writeString key ++ ':' :: write value ++ ',' :: writeMembers rest

end

/-- The compact text of a value. -/
def print (value : Json) : String :=
  String.ofList (write value)

end JobImages.Json
