import JobImages.Text.Obscure

/-!
# Quoted text

Diagnostics show a text between double quotes.  The quote and the backslash are escaped, five
controls have a letter of their own, and every other obscure character is spelled `\u{…}` by its
code point in lower-case hexadecimal.

## Main definitions

* `Text.quotedChar` — the characters that stand for one character;
* `Text.quoted` — the whole text between its quotes.
-/

namespace JobImages.Text

/-- A code point in lower-case hexadecimal without leading zeros. -/
def hexadecimal (n : Nat) : List Char :=
  Nat.toDigits 16 n

/-- What a quoted text writes for one character. -/
def quotedChar (c : Char) : List Char :=
  match c with
  | '\x00' => ['\\', '0']
  | '\t' => ['\\', 't']
  | '\r' => ['\\', 'r']
  | '\n' => ['\\', 'n']
  | '\\' => ['\\', '\\']
  | '"' => ['\\', '"']
  | c =>
    if isObscure c then
      ['\\', 'u', '\x7b'] ++ hexadecimal c.toNat ++ ['\x7d']
    else
      [c]

/-- A text between double quotes, readable back character by character. -/
def quoted (text : String) : String :=
  String.ofList ('"' :: text.toList.flatMap quotedChar ++ ['"'])

end JobImages.Text
