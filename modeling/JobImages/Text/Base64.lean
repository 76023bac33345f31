/-!
# Base64

Three bytes are written as four characters of six bits each.  A last group of one or two bytes is
filled up with equals signs.
-/

namespace JobImages.Text

/-- The characters for six bits, in order. -/
def base64Alphabet : List Char :=
  "ABCDEFGHIJKLMNOPQRSTUVWXYZabcdefghijklmnopqrstuvwxyz0123456789+/".toList

/-- The character for six bits. -/
def base64Char (bits : Nat) : Char :=
  base64Alphabet.getD bits '='

/-- The characters for some bytes. -/
def base64 : List UInt8 → List Char
  | [] => []
  | [a] =>
    let bits := a.toNat * 0x10000
    [base64Char (bits / 0x40000), base64Char (bits / 0x1000 % 0x40), '=', '=']
  | [a, b] =>
    let bits := a.toNat * 0x10000 + b.toNat * 0x100
    [base64Char (bits / 0x40000), base64Char (bits / 0x1000 % 0x40),
      base64Char (bits / 0x40 % 0x40), '=']
  | a :: b :: c :: rest =>
    let bits := a.toNat * 0x10000 + b.toNat * 0x100 + c.toNat
    base64Char (bits / 0x40000) :: base64Char (bits / 0x1000 % 0x40) ::
      base64Char (bits / 0x40 % 0x40) :: base64Char (bits % 0x40) :: base64 rest

end JobImages.Text
