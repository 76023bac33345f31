import JobImages.Json.Number

/-!
# The grammar of JSON

Which texts are documents is said here without a reader, by the rules of the grammar as the standard
has them.  A rule relates what was written to the characters that spell it.  Blanks and the ways to
spell one character are not kept.  All else is: an object has a member for each time that one is
written, and an escape of half a character is as good as any other.

## Main definitions

* `Grammar.Piece`, `Grammar.Phrase` — what is written in a string, and in a document;
* `Grammar.IsNumber`, `Grammar.IsString`, `Grammar.IsValue`, `Grammar.IsDocument` — the rules.
-/

namespace JobImages.Json

namespace Grammar

/-! ## Rules for numbers -/

/-- `ws = *( %x20 / %x09 / %x0A / %x0D )` -/
def IsBlank (text : List Char) : Prop :=
  ∀ c ∈ text, c ∈ [' ', '\t', '\n', '\r']

/-- `1*DIGIT` -/
def IsDigits (text : List Char) : Prop :=
  text ≠ [] ∧ ∀ c ∈ text, c.isDigit = true

/-- `int = zero / ( digit1-9 *DIGIT )` -/
inductive IsWhole : List Char → Prop where
  | zero : IsWhole ['0']
  | other {first : Char} {others : List Char} (hfirst : first.isDigit = true) (hne : first ≠ '0')
      (hothers : ∀ c ∈ others, c.isDigit = true) : IsWhole (first :: others)

/-- `[ frac ]`, where `frac = decimal-point 1*DIGIT` -/
inductive IsFraction : Option (List Char) → List Char → Prop where
  | absent : IsFraction none []
  | present {digits : List Char} (hdigits : IsDigits digits) :
      IsFraction (some digits) ('.' :: digits)

/-- `[ exp ]`, where `exp = e [ minus / plus ] 1*DIGIT` -/
inductive IsExponent : Option Literal.Exponent → List Char → Prop where
  | absent : IsExponent none []
  | bare {letter : Char} {digits : List Char} (hletter : letter = 'e' ∨ letter = 'E')
      (hdigits : IsDigits digits) :
      IsExponent (some { negative := false, digits }) (letter :: digits)
  | plus {letter : Char} {digits : List Char} (hletter : letter = 'e' ∨ letter = 'E')
      (hdigits : IsDigits digits) :
      IsExponent (some { negative := false, digits }) (letter :: '+' :: digits)
  | minus {letter : Char} {digits : List Char} (hletter : letter = 'e' ∨ letter = 'E')
      (hdigits : IsDigits digits) :
      IsExponent (some { negative := true, digits }) (letter :: '-' :: digits)

/-- `number = [ minus ] int [ frac ] [ exp ]` -/
inductive IsNumber : Literal → List Char → Prop where
  | positive {whole front back : List Char} {fraction : Option (List Char)}
      {exponent : Option Literal.Exponent} (hwhole : IsWhole whole)
      (hfraction : IsFraction fraction front) (hexponent : IsExponent exponent back) :
      IsNumber { negative := false, whole, fraction, exponent } (whole ++ (front ++ back))
  | negative {whole front back : List Char} {fraction : Option (List Char)}
      {exponent : Option Literal.Exponent} (hwhole : IsWhole whole)
      (hfraction : IsFraction fraction front) (hexponent : IsExponent exponent back) :
      IsNumber { negative := true, whole, fraction, exponent } ('-' :: (whole ++ (front ++ back)))

/-! ## Rules for strings -/

/-- A part of a string. -/
inductive Piece where
  /-- A character, by itself or in a short escape. -/
  | char (c : Char)
  /-- A UTF-16 unit. -/
  | unit (code : Nat)

/-- The letters of the short escapes, with the characters that they stand for. -/
def shortEscapes : List (Char × Char) :=
  [('"', '"'), ('\\', '\\'), ('/', '/'), ('b', '\x08'), ('f', '\x0c'), ('n', '\n'), ('r', '\r'),
    ('t', '\t')]

/-- `HEXDIG`, in either case. -/
def IsHexDigit (c : Char) (value : Nat) : Prop :=
  value < 10 ∧ c.toNat = 0x30 + value ∨
    10 ≤ value ∧ value < 16 ∧ (c.toNat = 0x41 + (value - 10) ∨ c.toNat = 0x61 + (value - 10))

instance (c : Char) (value : Nat) : Decidable (IsHexDigit c value) :=
  inferInstanceAs (Decidable (_ ∨ _))

/-- `4HEXDIG` -/
inductive IsCode : Nat → List Char → Prop where
  | mk {first second third fourth : Char} {a b c d : Nat} (ha : IsHexDigit first a)
      (hb : IsHexDigit second b) (hc : IsHexDigit third c) (hd : IsHexDigit fourth d) :
      IsCode (0x1000 * a + 0x100 * b + 0x10 * c + d) [first, second, third, fourth]

/-- `char = unescaped / escape ( … / %x75 4HEXDIG )` -/
inductive IsCharacter : Piece → List Char → Prop where
  | unescaped {c : Char} (hquote : c ≠ '"') (hbackslash : c ≠ '\\') (hcontrol : 0x20 ≤ c.toNat) :
      IsCharacter (.char c) [c]
  | short {letter c : Char} (hletter : (letter, c) ∈ shortEscapes) :
      IsCharacter (.char c) ['\\', letter]
  | code {code : Nat} {digits : List Char} (hcode : IsCode code digits) :
      IsCharacter (.unit code) ('\\' :: 'u' :: digits)

/-- `*char` -/
inductive IsCharacters : List Piece → List Char → Prop where
  | nil : IsCharacters [] []
  | cons {piece : Piece} {pieces : List Piece} {first others : List Char}
      (hfirst : IsCharacter piece first) (hothers : IsCharacters pieces others) :
      IsCharacters (piece :: pieces) (first ++ others)

theorem IsCharacters.append {front back : List Piece} {spelled others : List Char}
    (hfront : IsCharacters front spelled) (hback : IsCharacters back others) :
    IsCharacters (front ++ back) (spelled ++ others) := by
  induction hfront with
  | nil => exact hback
  | cons hfirst hrest ih =>
    rw [List.cons_append, List.append_assoc]
    exact .cons hfirst ih

/-- `string = quotation-mark *char quotation-mark` -/
inductive IsString : List Piece → List Char → Prop where
  | mk {pieces : List Piece} {text : List Char} (h : IsCharacters pieces text) :
      IsString pieces ('"' :: (text ++ ['"']))

/-! ## Rules for values -/

/-- What is written. -/
inductive Phrase where
  /-- The word. -/
  | null
  /-- One of the two words. -/
  | bool (value : Bool)
  /-- A number. -/
  | number (literal : Literal)
  /-- A string. -/
  | string (pieces : List Piece)
  /-- The elements in order. -/
  | array (items : List Phrase)
  /-- The members in order, with those of one key all there. -/
  | object (members : List (List Piece × Phrase))

/-- `part *( "," part )`, with blanks around each part. -/
inductive IsSeparated {α : Type} (rule : α → List Char → Prop) : List α → List Char → Prop where
  | last {part : α} {before core after : List Char} (hbefore : IsBlank before)
      (hpart : rule part core) (hafter : IsBlank after) :
      IsSeparated rule [part] (before ++ (core ++ after))
  | comma {part : α} {parts : List α} {before core after others : List Char}
      (hbefore : IsBlank before) (hpart : rule part core) (hafter : IsBlank after)
      (hparts : IsSeparated rule parts others) :
      IsSeparated rule (part :: parts) (before ++ (core ++ (after ++ ',' :: others)))

/-- `member = string ":" value`, with blanks around the colon. -/
inductive IsMember (rule : Phrase → List Char → Prop) : List Piece × Phrase → List Char → Prop where
  | mk {key : List Piece} {phrase : Phrase} {front before after back : List Char}
      (hkey : IsString key front) (hbefore : IsBlank before) (hafter : IsBlank after)
      (hvalue : rule phrase back) :
      IsMember rule (key, phrase) (front ++ (before ++ ':' :: (after ++ back)))

/-- `value = false / null / true / object / array / number / string` -/
inductive IsValue : Phrase → List Char → Prop where
  | null : IsValue .null ['n', 'u', 'l', 'l']
  | true : IsValue (.bool true) ['t', 'r', 'u', 'e']
  | false : IsValue (.bool false) ['f', 'a', 'l', 's', 'e']
  | number {literal : Literal} {text : List Char} (h : IsNumber literal text) :
      IsValue (.number literal) text
  | string {pieces : List Piece} {text : List Char} (h : IsString pieces text) :
      IsValue (.string pieces) text
  | emptyArray {text : List Char} (h : IsBlank text) : IsValue (.array []) ('[' :: (text ++ [']']))
  | array {items : List Phrase} {text : List Char} (h : IsSeparated IsValue items text) :
      IsValue (.array items) ('[' :: (text ++ [']']))
  | emptyObject {text : List Char} (h : IsBlank text) :
      IsValue (.object []) ('\x7b' :: (text ++ ['\x7d']))
  | object {members : List (List Piece × Phrase)} {text : List Char}
      (h : IsSeparated (IsMember IsValue) members text) :
      IsValue (.object members) ('\x7b' :: (text ++ ['\x7d']))

/-- `JSON-text = ws value ws` -/
inductive IsDocument : Phrase → List Char → Prop where
  | mk {phrase : Phrase} {before core after : List Char} (hbefore : IsBlank before)
      (hcore : IsValue phrase core) (hafter : IsBlank after) :
      IsDocument phrase (before ++ (core ++ after))

end Grammar

end JobImages.Json
