import JobImages.Text.Obscure

/-!
# International labels

A label of a domain name that begins with `xn--` spells a label of other characters than those of
ASCII, after RFC 3492.  Its ASCII characters come first, up to the last hyphen.  The letters and
digits after that are numbers, each of which says where the next character goes and how far its code
point is from the one before: the smallest code points are put in first.

## Main definitions

* `Punycode.Decoder` — a label under way;
* `Punycode.decode?` — the text that a spelling stands for;
* `Punycode.isLabel` — whether a label is sound: one of ASCII only, or one that spells a label.
-/

namespace JobImages.Url.Punycode

/-- The number of digits: the letters, and then the decimal digits. -/
def base : Nat := 36

/-- The value of a lower-case digit. -/
def digit? (c : Char) : Option Nat :=
  if 'a' ≤ c ∧ c ≤ 'z' then some (c.toNat - 'a'.toNat)
  else if c.isDigit then some (c.toNat - '0'.toNat + 26)
  else none

/-- The least digit at a place after which a number goes on, between 1 and 26. -/
def threshold (place bias : Nat) : Nat :=
  max 1 (min 26 (place - bias))

/-- Divides a distance until it is small, and counts the places that this takes. -/
def places (distance : Nat) : Nat × Nat :=
  if 455 < distance then
    let (count, rest) := places (distance / 35)
    (count + base, rest)
  else (0, distance)
termination_by distance
decreasing_by exact Nat.div_lt_self (by omega) (by omega)

/-- The bias after a distance has been read, so that numbers of its size are short.  The first
distance says little about the others. -/
def adapt (distance length : Nat) (first : Bool) : Nat :=
  let distance := distance / (if first then 700 else 2)
  let (count, rest) := places (distance + distance / length)
  count + base * rest / (rest + 38)

/-- No number reaches this. -/
def limit : Nat := 0x100000000

/-- A label under way. -/
structure Decoder where
  /-- The characters so far. -/
  text : List Char
  /-- The code point that was put in last. -/
  code : Nat := 0x80
  /-- Where the search for the next place begins: after the character that was put in last. -/
  index : Nat := 0
  /-- The bias of the numbers. -/
  bias : Nat := 72
  /-- The number that is being read, as far as it is known. -/
  distance : Nat := 0
  /-- What the next digit is worth. -/
  weight : Nat := 1
  /-- The place of the next digit. -/
  place : Nat := base

/-- A text with a character put in at a place. -/
def insertAt (text : List Char) (index : Nat) (c : Char) : List Char :=
  text.take index ++ c :: text.drop index

/-- Puts in the character that the distance leads to, counting through all places of the text once
for each code point. -/
def Decoder.insert? (decoder : Decoder) : Option Decoder :=
  let length := decoder.text.length + 1
  let target := decoder.index + decoder.distance
  let code := decoder.code + target / length
  if code.isValidChar then
    some {
      text := insertAt decoder.text (target % length) (Char.ofNat code)
      code
      index := target % length + 1
      bias := adapt decoder.distance length (decoder.index = 0) }
  else none

/-- Reads a digit.  A digit below the threshold ends its number. -/
def Decoder.step? (decoder : Decoder) (c : Char) : Option Decoder := do
  let digit ← digit? c
  let distance := decoder.distance + digit * decoder.weight
  if limit ≤ decoder.index + distance then none
  let threshold := threshold decoder.place decoder.bias
  if digit < threshold then Decoder.insert? { decoder with distance }
  else
    let weight := decoder.weight * (base - threshold)
    if limit ≤ weight then none
    some { decoder with distance, weight, place := decoder.place + base }

/-- The ASCII characters of a spelling, and its digits.  A hyphen at the very beginning separates
nothing. -/
def cut (spelling : List Char) : List Char × List Char :=
  let digits := (spelling.reverse.takeWhile (· != '-')).reverse
  let text := spelling.take (spelling.length - digits.length)
  if text = ['-'] then ([], spelling) else (text.dropLast, digits)

/-- The text that a spelling stands for.  It ends with a number, and there is at least one. -/
def decode? (spelling : List Char) : Option (List Char) := do
  let (text, digits) := cut spelling
  if digits.isEmpty then none
  let decoder ← digits.foldlM Decoder.step? { text }
  -- No number is left unfinished.
  if decoder.place = base then some decoder.text else none

/-- What announces a spelling. -/
def mark : List Char := ['x', 'n', '-', '-']

/-- Whether a text can be a label: it announces no spelling itself, and its first character shows on
its own. -/
def isProper (text : List Char) : Bool :=
  !mark.isPrefixOf text && !text.head?.any Text.isObscure

/-- Whether a label in lower case is sound. -/
def isLabel (label : List Char) : Bool :=
  !mark.isPrefixOf label || (decode? (label.drop mark.length)).any isProper

end JobImages.Url.Punycode
