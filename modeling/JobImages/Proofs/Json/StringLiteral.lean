import JobImages.Json.Printer
import JobImages.Proofs.Json.StringRule

/-!
# String literals as they are written

A string literal escapes each character by itself.  Whichever way a character is written, that is
one part of a string by the grammar and stands for the character, so a literal is a string by the
grammar and means the text it was written for.

## Main definitions

* `Grammar.Piece.ofChar` — the part of a string that is written for a character.

## Main results

* `Json.isCharacter_escape` — what is written for one character;
* `Json.isString_writeString`, `Json.textOf?_pieces` — what is written for a string, and its
  meaning.
-/

namespace JobImages.Json

open Grammar

/-- The part of a string that is written for a character: the character, unless it is a control
without a short escape. -/
def Grammar.Piece.ofChar (c : Char) : Piece :=
  if c.toNat < 0x20 ∧ c ∉ shortEscapes.map Prod.snd then .unit c.toNat else .char c

/-- The parts that are written for a text. -/
def Grammar.pieces (text : String) : List Piece :=
  text.toList.map Piece.ofChar

/-- A control's code point has two zeros and two more digits. -/
theorem isCode_of_control {c : Char} (h : c.toNat < 0x20) :
    ∃ digits, escapeCode c = '\\' :: 'u' :: digits ∧ IsCode c.toNat digits := by
  have hdigit : ∀ m < 16, IsHexDigit (Nat.digitChar m) m := by decide
  have hzero : IsHexDigit '0' 0 := by decide
  have hall : ∀ n < 0x20, ∃ high low, IsHexDigit high (n / 16) ∧ IsHexDigit low (n % 16) ∧
      List.replicate (4 - (Nat.toDigits 16 n).length) '0' ++ Nat.toDigits 16 n =
        ['0', '0', high, low] := by
    intro n hn
    by_cases hone : n < 16
    · have hdigits : Nat.toDigits 16 n = [n.digitChar] := Nat.toDigits_of_lt_base hone
      refine ⟨'0', n.digitChar, ?_, ?_, by rw [hdigits]; rfl⟩
      · rw [Nat.div_eq_of_lt hone]
        exact hzero
      · rw [Nat.mod_eq_of_lt hone]
        exact hdigit n hone
    · have hdigits : Nat.toDigits 16 n = [(n / 16).digitChar, (n % 16).digitChar] := by
        rw [Nat.toDigits_of_base_le (by decide) (by omega),
          Nat.toDigits_of_lt_base (by omega), List.singleton_append]
      refine ⟨_, _, hdigit _ (by omega), hdigit _ (by omega), by rw [hdigits]; rfl⟩
  obtain ⟨high, low, hhigh, hlow, hdigits⟩ := hall c.toNat h
  refine ⟨['0', '0', high, low], ?_, ?_⟩
  · rw [escapeCode, List.append_assoc, hdigits]
    rfl
  · have hcode := IsCode.mk hzero hzero hhigh hlow
    have hvalue : 0x1000 * 0 + 0x100 * 0 + 0x10 * (c.toNat / 16) + c.toNat % 16 = c.toNat := by
      omega
    rwa [hvalue] at hcode

/-- What is written for a character is one part of a string. -/
theorem isCharacter_escape (c : Char) : IsCharacter (Piece.ofChar c) (escape c) := by
  unfold escape
  split
  -- The last case is that of the characters without a short escape.
  case h_8 _ hquote hbackslash hb hf hn hr ht =>
    by_cases hcontrol : c.toNat < 0x20
    · have hslash : c ≠ '/' := by
        rintro rfl
        exact absurd hcontrol (by decide)
      have hlong : c ∉ shortEscapes.map Prod.snd := by
        simp only [shortEscapes, List.map_cons, List.map_nil, List.mem_cons, List.not_mem_nil,
          or_false, not_or]
        exact ⟨hquote, hbackslash, hslash, hb, hf, hn, hr, ht⟩
      have hpiece : Piece.ofChar c = .unit c.toNat := if_pos ⟨hcontrol, hlong⟩
      obtain ⟨digits, hcode, hdigits⟩ := isCode_of_control hcontrol
      rw [if_pos hcontrol, hcode, hpiece]
      exact .code hdigits
    · have hpiece : Piece.ofChar c = .char c := if_neg fun h => hcontrol h.1
      rw [if_neg hcontrol, hpiece]
      exact .unescaped hquote hbackslash (Nat.le_of_not_lt hcontrol)
  all_goals exact .short (by decide)

/-- It stands for the character. -/
theorem stands_ofChar (c : Char) : Reader.Stands [Piece.ofChar c] c := by
  intro more
  unfold Piece.ofChar
  split
  · next hcontrol =>
    have hleading : ¬IsLeading c.toNat := fun h => by
      have := h.1
      omega
    have htrailing : ¬IsTrailing c.toNat := fun h => by
      have := h.1
      omega
    have hstands := textOf?_unit more hleading htrailing
    rwa [Char.ofNat_toNat] at hstands
  · rfl

/-- What is written between the quotes spells the text. -/
theorem isCharacters_escape (text : String) :
    IsCharacters (pieces text) (text.toList.flatMap escape) := by
  unfold pieces
  induction text.toList with
  | nil => exact .nil
  | cons c rest ih =>
    rw [List.map_cons, List.flatMap_cons]
    exact .cons (isCharacter_escape c) ih

/-- What is written for a string is one. -/
theorem isString_writeString (text : String) : IsString (pieces text) (writeString text) :=
  .mk (isCharacters_escape text)

/-- It means the text. -/
theorem textOf?_pieces (text : String) : textOf? (pieces text) = some text.toList := by
  unfold pieces
  induction text.toList with
  | nil => rfl
  | cons c rest ih =>
    have hfirst := stands_ofChar c (rest.map Piece.ofChar)
    rwa [ih] at hfirst

end JobImages.Json
