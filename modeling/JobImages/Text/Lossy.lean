/-!
# Reading bytes as text, with replacements

A process may write bytes that are not UTF-8, and a server may answer with them.  Such output is
shown with U+FFFD in place of each maximal ill-formed part: the longest run of bytes that begins
some well-formed sequence and is broken off before that sequence is complete.

## Main definitions

* `Text.Partial` — a sequence under way: its value so far and what the next byte may be;
* `Text.decodeLossy` — the characters of a list of bytes;
* `Text.ofBytesLossy` — the same as a text.
-/

namespace JobImages.Text

/-- A multi-byte sequence that has begun.  Only the byte after the first has bounds of its own: they
exclude overlong forms, surrogates and values above U+10FFFF. -/
structure Partial where
  /-- The bits collected so far. -/
  value : Nat
  /-- How many bytes follow after the next one. -/
  remaining : Nat
  /-- The least byte that may come next. -/
  low : Nat := 0x80
  /-- The greatest byte that may come next. -/
  high : Nat := 0xbf

/-- What a byte is when no sequence is under way. -/
inductive Lead where
  /-- A character of its own. -/
  | single (value : Nat)
  /-- The first byte of a longer sequence. -/
  | opens (sequence : Partial)
  /-- A byte that begins nothing. -/
  | stray

/-- The role of a byte as the first of a sequence. -/
def Lead.ofByte (b : Nat) : Lead :=
  if b < 0x80 then .single b
  else if b < 0xc2 then .stray
  else if b < 0xe0 then .opens { value := b % 0x20, remaining := 0 }
  else if b = 0xe0 then .opens { value := 0, remaining := 1, low := 0xa0 }
  else if b = 0xed then .opens { value := 0xd, remaining := 1, high := 0x9f }
  else if b < 0xf0 then .opens { value := b % 0x10, remaining := 1 }
  else if b = 0xf0 then .opens { value := 0, remaining := 2, low := 0x90 }
  else if b < 0xf4 then .opens { value := b % 8, remaining := 2 }
  else if b = 0xf4 then .opens { value := 4, remaining := 2, high := 0x8f }
  else .stray

/-- U+FFFD, which stands for bytes that are no character. -/
def replacement : Char := '\ufffd'

/-- Decodes with a sequence under way, or with none. -/
def decodeLossyFrom : Option Partial → List UInt8 → List Char
  | none, [] => []
  | some _, [] => [replacement]
  | none, byte :: rest =>
    match Lead.ofByte byte.toNat with
    | .single value => Char.ofNat value :: decodeLossyFrom none rest
    | .opens sequence => decodeLossyFrom (some sequence) rest
    | .stray => replacement :: decodeLossyFrom none rest
  | some sequence, byte :: rest =>
    let b := byte.toNat
    if sequence.low ≤ b && b ≤ sequence.high then
      let value := sequence.value * 0x40 + b % 0x40
      match sequence.remaining with
      | 0 => Char.ofNat value :: decodeLossyFrom none rest
      | left + 1 => decodeLossyFrom (some { value, remaining := left }) rest
    else
      -- The byte does not go on with the sequence; it may still begin another.
      match Lead.ofByte b with
      | .single value => replacement :: Char.ofNat value :: decodeLossyFrom none rest
      | .opens next => replacement :: decodeLossyFrom (some next) rest
      | .stray => replacement :: replacement :: decodeLossyFrom none rest

/-- The characters of a list of bytes, each maximal ill-formed part replaced by one U+FFFD. -/
def decodeLossy (bytes : List UInt8) : List Char :=
  decodeLossyFrom none bytes

/-- The bytes of a stream as text. -/
def ofBytesLossy (bytes : List UInt8) : String :=
  String.ofList (decodeLossy bytes)

end JobImages.Text
