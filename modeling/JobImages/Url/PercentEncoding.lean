import JobImages.Text.Bytes

/-!
# Percent-encoding

A URL is written in ASCII.  A character that may not stand at some place is written as the bytes of
its UTF-8 encoding, each a percent sign and two upper-case hexadecimal digits.  Which characters are
encoded depends on the place; characters outside ASCII always are.

## Main definitions

* `Url.encode` — a text with the characters of a set encoded;
* `Url.inUserInfo`, `Url.inPath`, `Url.inQuery`, `Url.inFragment` — the sets, by place;
* `Url.decodeBytes` — the bytes that a text stands for.
-/

namespace JobImages.Url

/-- Controls and everything outside ASCII, which no place admits. -/
def isControl (c : Char) : Bool :=
  c.toNat < 0x20 || 0x7f ≤ c.toNat

/-- What is encoded in a fragment. -/
def inFragment (c : Char) : Bool :=
  isControl c || [' ', '"', '<', '>', '`'].contains c

/-- What is encoded in a query; the apostrophe only under the special schemes. -/
def inQuery (special : Bool) (c : Char) : Bool :=
  isControl c || [' ', '"', '#', '<', '>'].contains c || (special && c == '\'')

/-- What is encoded in a path. -/
def inPath (c : Char) : Bool :=
  inFragment c || ['#', '?', '\x7b', '\x7d'].contains c

/-- What is encoded in a user name or a password. -/
def inUserInfo (c : Char) : Bool :=
  inPath c || ['/', ':', ';', '=', '@', '[', '\\', ']', '^', '|'].contains c

/-- An upper-case hexadecimal digit. -/
def upperHexDigit (n : Nat) : Char :=
  if n < 10 then Char.ofNat ('0'.toNat + n) else Char.ofNat ('A'.toNat + n - 10)

/-- A percent sign and the two digits of a byte. -/
def encodeByte (byte : UInt8) : List Char :=
  ['%', upperHexDigit (byte.toNat / 16), upperHexDigit (byte.toNat % 16)]

/-- A character as it is, or encoded when it belongs to the set. -/
def encodeChar (set : Char → Bool) (c : Char) : List Char :=
  if set c then (String.utf8EncodeChar c).flatMap encodeByte else [c]

/-- A text in which the characters of a set are encoded. -/
def encode (set : Char → Bool) (text : List Char) : List Char :=
  text.flatMap (encodeChar set)

/-- The value of a hexadecimal digit, given as a byte. -/
def hexValue? (byte : UInt8) : Option Nat :=
  let b := byte.toNat
  if 0x30 ≤ b && b ≤ 0x39 then some (b - 0x30)
  else if 0x41 ≤ b && b ≤ 0x46 then some (b - 0x41 + 10)
  else if 0x61 ≤ b && b ≤ 0x66 then some (b - 0x61 + 10)
  else none

/-- The bytes after decoding.  A percent sign without two hexadecimal digits stands for itself. -/
def decodeBytes : List UInt8 → List UInt8
  | byte :: high :: low :: rest =>
    if byte.toNat = 0x25 then
      match hexValue? high, hexValue? low with
      | some h, some l => UInt8.ofNat (h * 16 + l) :: decodeBytes rest
      | _, _ => byte :: decodeBytes (high :: low :: rest)
    else byte :: decodeBytes (high :: low :: rest)
  | bytes => bytes

/-- The bytes that a text stands for. -/
def decodedBytes (text : List Char) : List UInt8 :=
  decodeBytes (text.flatMap String.utf8EncodeChar)

/-- The text that a text stands for, when its bytes are UTF-8. -/
def decodeText? (text : List Char) : Option String :=
  Text.ofBytes? (decodedBytes text)

end JobImages.Url
