import JobImages.Json.Reader
import JobImages.Proofs.Json.Grammar
import Mathlib.Data.List.TakeWhile

/-!
# Reading numbers by the grammar

A reader of numbers takes the longest run of digits at every place where the grammar has digits.
What it takes is a number by the grammar; and a number by the grammar is what it takes, as long as
the text behind does not go on with it.

## Main definitions

* `Json.Delimited`, `Json.Undigited` — a text that does not go on with a number, or with digits,
  before it;
* `Json.Reader.digits` — the part that a fraction and an exponent have in common.

## Main results

* `Json.Reader.isNumber_of_literal` — what is taken for a number is one;
* `Json.Reader.literal_of_isNumber` — a number is taken for that, if nothing continues it.
-/

namespace JobImages.Json

open Grammar

/-! ## What follows a number -/

/-- Whether a character can stand in a number behind its first digit. -/
def continuesNumber (c : Char) : Bool :=
  c.isDigit || c == '.' || c == 'e' || c == 'E'

/-- A text that does not go on with a number before it. -/
def Delimited (text : List Char) : Prop :=
  ∀ c rest, text = c :: rest → continuesNumber c = false

theorem delimited_nil : Delimited [] := by
  intro c rest h
  cases h

theorem delimited_cons {c : Char} (rest : List Char) (h : continuesNumber c = false) :
    Delimited (c :: rest) := by
  intro d others heq
  cases heq
  exact h

/-- A text that does not go on with digits before it. -/
def Undigited (text : List Char) : Prop :=
  ∀ c rest, text = c :: rest → c.isDigit = false

theorem undigited_cons {c : Char} (rest : List Char) (h : c.isDigit = false) :
    Undigited (c :: rest) := by
  intro d others heq
  cases heq
  exact h

theorem Delimited.undigited {text : List Char} (h : Delimited text) : Undigited text := by
  intro c rest heq
  have hc := h c rest heq
  simp only [continuesNumber, Bool.or_eq_false_iff] at hc
  exact hc.1.1.1

namespace Reader

variable {text rest : List Char}

/-! ## Digits -/

/-- Digits that have to be there. -/
def digits : Reader (List Char) := fun text =>
  match text.takeWhile Char.isDigit, text.dropWhile Char.isDigit with
  | [], [] => stop .endInValue [] 0
  | [], after => stop .badNumber after 1
  | found, after => .ok (found, after)

theorem takeWhile_isDigit_append {found : List Char} (hfound : ∀ c ∈ found, c.isDigit = true)
    (hrest : Undigited rest) : (found ++ rest).takeWhile Char.isDigit = found := by
  rw [List.takeWhile_append_of_pos hfound]
  cases rest with
  | nil => exact List.append_nil found
  | cons c others =>
    rw [List.takeWhile_cons_of_neg (by simp [hrest c others rfl]), List.append_nil]

theorem dropWhile_isDigit_append {found : List Char} (hfound : ∀ c ∈ found, c.isDigit = true)
    (hrest : Undigited rest) : (found ++ rest).dropWhile Char.isDigit = rest := by
  rw [List.dropWhile_append_of_pos hfound]
  cases rest with
  | nil => rfl
  | cons c others => exact List.dropWhile_cons_of_neg (by simp [hrest c others rfl])

theorem digits_of_isDigits {found : List Char} (h : IsDigits found) (hrest : Undigited rest) :
    digits (found ++ rest) = .ok (found, rest) := by
  rw [digits, takeWhile_isDigit_append h.2 hrest, dropWhile_isDigit_append h.2 hrest]
  cases found with
  | nil => exact absurd rfl h.1
  | cons first others => rfl

theorem isDigits_of_digits {found : List Char} (h : digits text = .ok (found, rest)) :
    IsDigits found ∧ text = found ++ rest := by
  have hall : ∀ c ∈ text.takeWhile Char.isDigit, c.isDigit = true := fun c hc =>
    List.mem_takeWhile_imp hc
  have hsplit : text.takeWhile Char.isDigit ++ text.dropWhile Char.isDigit = text :=
    List.takeWhile_append_dropWhile
  rw [digits] at h
  cases htake : text.takeWhile Char.isDigit with
  | nil =>
    rw [htake] at h
    cases hdrop : text.dropWhile Char.isDigit <;> rw [hdrop] at h <;> cases h
  | cons first others =>
    rw [htake] at h hsplit hall
    cases h
    exact ⟨⟨List.cons_ne_nil _ _, hall⟩, hsplit.symm⟩

/-- What is worked out of digits has those in front. -/
theorem isDigits_of_map_digits {α : Type} {f : List Char × List Char → α} {result : α}
    (h : (digits text).map f = .ok result) :
    ∃ found after, IsDigits found ∧ text = found ++ after ∧ f (found, after) = result := by
  obtain ⟨⟨found, after⟩, hdigits, heq⟩ := exists_of_map_eq_ok h
  obtain ⟨hrule, hsplit⟩ := isDigits_of_digits hdigits
  exact ⟨found, after, hrule, hsplit, heq⟩

theorem fraction_point (text : List Char) :
    fraction ('.' :: text) = (digits text).map fun found => (some found.1, found.2) := by
  rw [digits, fraction]
  cases text.takeWhile Char.isDigit <;> cases text.dropWhile Char.isDigit <;> rfl

section Exponent

variable {letter : Char} (hletter : letter = 'e' ∨ letter = 'E')

include hletter

theorem exponent_letter (text : List Char) :
    exponent (letter :: text) =
      let negative := text.head? == some '-'
      let unsigned := if negative || text.head? == some '+' then text.tail else text
      (digits unsigned).map fun found => (some { negative, digits := found.1 }, found.2) := by
  rw [exponent, if_pos hletter]
  simp only [digits]
  generalize (if (text.head? == some '-' || text.head? == some '+') = true then text.tail else text)
    = unsigned
  cases unsigned.takeWhile Char.isDigit <;> cases unsigned.dropWhile Char.isDigit <;> rfl

theorem exponent_minus (text : List Char) :
    exponent (letter :: '-' :: text) =
      (digits text).map fun found => (some { negative := true, digits := found.1 }, found.2) :=
  exponent_letter hletter _

theorem exponent_plus (text : List Char) :
    exponent (letter :: '+' :: text) =
      (digits text).map fun found => (some { negative := false, digits := found.1 }, found.2) :=
  exponent_letter hletter _

theorem exponent_bare (hminus : text.head? ≠ some '-') (hplus : text.head? ≠ some '+') :
    exponent (letter :: text) =
      (digits text).map fun found => (some { negative := false, digits := found.1 }, found.2) := by
  rw [exponent_letter hletter]
  simp [beq_eq_false_iff_ne.2 hminus, beq_eq_false_iff_ne.2 hplus]

end Exponent

/-- A number behind its sign. -/
def unsigned (negative : Bool) : Reader Literal := fun text => do
  let (whole, rest) ← whole text
  let (fraction, rest) ← fraction rest
  let (exponent, rest) ← exponent rest
  .ok ({ negative, whole, fraction, exponent }, rest)

theorem literal_minus (text : List Char) : literal ('-' :: text) = unsigned true text := rfl

theorem literal_of_no_sign (h : text.head? ≠ some '-') : literal text = unsigned false text := by
  rw [literal, beq_eq_false_iff_ne.2 h]
  rfl

/-- A digit is no sign. -/
theorem ne_of_isDigit {c sign : Char} (hc : c.isDigit = true) (hsign : sign.isDigit = false) :
    c ≠ sign := by
  rintro rfl
  rw [hc] at hsign
  cases hsign

/-! ## What is taken for a number -/

theorem isWhole_of_whole {found : List Char} (h : whole text = .ok (found, rest)) :
    IsWhole found ∧ text = found ++ rest := by
  unfold whole at h
  split at h
  · cases h
  · next c others =>
    split at h
    · -- A zero in front is all of the whole part: no digit may follow it.
      next hzero =>
      subst hzero
      split at h
      · split at h
        · cases h
        · cases h
          exact ⟨.zero, rfl⟩
      · cases h
        exact ⟨.zero, rfl⟩
    · next hne =>
      split at h
      · next hdigit =>
        cases h
        refine ⟨.other hdigit hne fun d hd => List.mem_takeWhile_imp hd, ?_⟩
        rw [List.cons_append, List.takeWhile_append_dropWhile]
      · cases h

theorem isFraction_of_fraction {found : Option (List Char)}
    (h : fraction text = .ok (found, rest)) :
    ∃ front, IsFraction found front ∧ text = front ++ rest := by
  by_cases hpoint : ∃ others, text = '.' :: others
  · obtain ⟨others, rfl⟩ := hpoint
    rw [fraction_point] at h
    obtain ⟨digits, after, hdigits, rfl, heq⟩ := isDigits_of_map_digits h
    cases heq
    exact ⟨_, .present hdigits, rfl⟩
  · unfold fraction at h
    split at h
    · exact absurd ⟨_, rfl⟩ hpoint
    · cases h
      exact ⟨[], .absent, rfl⟩

theorem isExponent_of_exponent {found : Option Literal.Exponent}
    (h : exponent text = .ok (found, rest)) :
    ∃ back, IsExponent found back ∧ text = back ++ rest := by
  cases text with
  | nil =>
    cases h
    exact ⟨[], .absent, rfl⟩
  | cons letter others =>
    by_cases hletter : letter = 'e' ∨ letter = 'E'
    · -- The digits stand behind a sign, or right behind the letter.
      by_cases hminus : others.head? = some '-'
      · obtain ⟨unsigned, rfl⟩ := List.head?_eq_some_iff.1 hminus
        rw [exponent_minus hletter] at h
        obtain ⟨digits, after, hdigits, rfl, heq⟩ := isDigits_of_map_digits h
        cases heq
        exact ⟨_, .minus hletter hdigits, rfl⟩
      by_cases hplus : others.head? = some '+'
      · obtain ⟨unsigned, rfl⟩ := List.head?_eq_some_iff.1 hplus
        rw [exponent_plus hletter] at h
        obtain ⟨digits, after, hdigits, rfl, heq⟩ := isDigits_of_map_digits h
        cases heq
        exact ⟨_, .plus hletter hdigits, rfl⟩
      · rw [exponent_bare hletter hminus hplus] at h
        obtain ⟨digits, after, hdigits, rfl, heq⟩ := isDigits_of_map_digits h
        cases heq
        exact ⟨_, .bare hletter hdigits, rfl⟩
    · rw [exponent, if_neg hletter] at h
      cases h
      exact ⟨[], .absent, rfl⟩

theorem parts_of_unsigned {negative : Bool} {found : Literal}
    (h : unsigned negative text = .ok (found, rest)) :
    ∃ front middle back, IsWhole front ∧ IsFraction found.fraction middle ∧
      IsExponent found.exponent back ∧ text = front ++ (middle ++ back) ++ rest ∧
      found = { found with negative, whole := front } := by
  obtain ⟨⟨whole, afterWhole⟩, hwhole, h⟩ := exists_of_bind_eq_ok h
  obtain ⟨⟨fraction, afterFraction⟩, hfraction, h⟩ := exists_of_bind_eq_ok h
  obtain ⟨⟨exponent, afterExponent⟩, hexponent, h⟩ := exists_of_bind_eq_ok h
  cases h
  obtain ⟨hfront, rfl⟩ := isWhole_of_whole hwhole
  obtain ⟨middle, hmiddle, rfl⟩ := isFraction_of_fraction hfraction
  obtain ⟨back, hback, rfl⟩ := isExponent_of_exponent hexponent
  exact ⟨whole, middle, back, hfront, hmiddle, hback, by simp only [List.append_assoc], rfl⟩

/-- What is taken for a number is one. -/
theorem isNumber_of_literal {found : Literal} (h : literal text = .ok (found, rest)) :
    ∃ spelled, IsNumber found spelled ∧ text = spelled ++ rest := by
  by_cases hminus : text.head? = some '-'
  · obtain ⟨others, rfl⟩ := List.head?_eq_some_iff.1 hminus
    rw [literal_minus] at h
    obtain ⟨front, middle, back, hfront, hmiddle, hback, rfl, heq⟩ := parts_of_unsigned h
    rw [heq]
    exact ⟨_, .negative hfront hmiddle hback, rfl⟩
  · rw [literal_of_no_sign hminus] at h
    obtain ⟨front, middle, back, hfront, hmiddle, hback, rfl, heq⟩ := parts_of_unsigned h
    rw [heq]
    exact ⟨_, .positive hfront hmiddle hback, rfl⟩

/-! ## What is a number -/

theorem whole_of_isWhole {found : List Char} (h : IsWhole found) (hrest : Undigited rest) :
    whole (found ++ rest) = .ok (found, rest) := by
  cases h with
  | zero =>
    cases rest with
    | nil => rfl
    | cons c others => simp [whole, hrest c others rfl]
  | other hfirst hne hothers =>
    simp only [List.cons_append, whole, if_neg hne, hfirst, if_true,
      takeWhile_isDigit_append hothers hrest, dropWhile_isDigit_append hothers hrest]

theorem fraction_of_isFraction {found : Option (List Char)} {front : List Char}
    (h : IsFraction found front) (hrest : Undigited rest)
    (hpoint : ∀ others, rest ≠ '.' :: others) :
    fraction (front ++ rest) = .ok (found, rest) := by
  cases h with
  | absent =>
    rw [List.nil_append]
    unfold fraction
    split
    · next others => exact absurd rfl (hpoint others)
    · rfl
  | present hdigits =>
    rw [List.cons_append, fraction_point, digits_of_isDigits hdigits hrest]
    rfl

theorem exponent_of_isExponent {found : Option Literal.Exponent} {back : List Char}
    (h : IsExponent found back) (hrest : Delimited rest) :
    exponent (back ++ rest) = .ok (found, rest) := by
  cases h with
  | absent =>
    cases rest with
    | nil => rfl
    | cons c others =>
      have hc := hrest c others rfl
      have hletter : ¬(c = 'e' ∨ c = 'E') := by
        rintro (rfl | rfl) <;> cases hc
      rw [List.nil_append, exponent, if_neg hletter]
  | @bare letter digits hletter hdigits =>
    -- The first digit is not taken for a sign.
    have hsign : ∀ sign, sign.isDigit = false → (digits ++ rest).head? ≠ some sign := by
      intro sign hsign
      cases digits with
      | nil => exact absurd rfl hdigits.1
      | cons first others =>
        have hne := ne_of_isDigit (hdigits.2 first List.mem_cons_self) hsign
        simpa using hne
    rw [List.cons_append, exponent_bare hletter (hsign '-' rfl) (hsign '+' rfl),
      digits_of_isDigits hdigits hrest.undigited]
    rfl
  | plus hletter hdigits =>
    rw [List.cons_append, List.cons_append, exponent_plus hletter,
      digits_of_isDigits hdigits hrest.undigited]
    rfl
  | minus hletter hdigits =>
    rw [List.cons_append, List.cons_append, exponent_minus hletter,
      digits_of_isDigits hdigits hrest.undigited]
    rfl

/-- A number behind its sign begins with a digit. -/
theorem eq_cons_of_isWhole {found : List Char} (h : IsWhole found) :
    ∃ first others, found = first :: others ∧ first.isDigit = true := by
  cases h with
  | zero => exact ⟨_, _, rfl, rfl⟩
  | other hfirst hne hothers => exact ⟨_, _, rfl, hfirst⟩

theorem eq_cons_of_isExponent {found : Option Literal.Exponent} {back : List Char}
    (h : IsExponent found back) :
    back = [] ∨ ∃ letter others, back = letter :: others ∧ (letter = 'e' ∨ letter = 'E') := by
  cases h with
  | absent => exact .inl rfl
  | bare hletter hdigits => exact .inr ⟨_, _, rfl, hletter⟩
  | plus hletter hdigits => exact .inr ⟨_, _, rfl, hletter⟩
  | minus hletter hdigits => exact .inr ⟨_, _, rfl, hletter⟩

theorem unsigned_of_parts {negative : Bool} {front middle back : List Char}
    {fraction : Option (List Char)} {exponent : Option Literal.Exponent} (hfront : IsWhole front)
    (hmiddle : IsFraction fraction middle) (hback : IsExponent exponent back)
    (hrest : Delimited rest) :
    unsigned negative (front ++ (middle ++ back) ++ rest) =
      .ok ({ negative, whole := front, fraction, exponent }, rest) := by
  have hexponent := exponent_of_isExponent hback hrest
  -- What stands behind a part of the number goes on neither with digits nor with a point.
  have hbehind : Undigited (back ++ rest) ∧ ∀ others, back ++ rest ≠ '.' :: others := by
    rcases eq_cons_of_isExponent hback with rfl | ⟨letter, others, rfl, hletter⟩
    · refine ⟨hrest.undigited, fun others heq => ?_⟩
      cases hrest '.' others heq
    · rcases hletter with rfl | rfl
      · exact ⟨undigited_cons _ rfl, fun others heq => by cases heq⟩
      · exact ⟨undigited_cons _ rfl, fun others heq => by cases heq⟩
  have hfraction := fraction_of_isFraction hmiddle hbehind.1 hbehind.2
  have hundigited : Undigited (middle ++ (back ++ rest)) := by
    cases hmiddle with
    | absent => exact hbehind.1
    | present hdigits => exact undigited_cons _ rfl
  have hwhole := whole_of_isWhole hfront hundigited
  rw [List.append_assoc, List.append_assoc]
  simp only [unsigned, hwhole, hfraction, hexponent, bind, Except.bind]

/-- A number is taken for that, if nothing continues it. -/
theorem literal_of_isNumber {found : Literal} {spelled : List Char} (h : IsNumber found spelled)
    (hrest : Delimited rest) : literal (spelled ++ rest) = .ok (found, rest) := by
  cases h with
  | positive hwhole hfraction hexponent =>
    obtain ⟨first, others, rfl, hfirst⟩ := eq_cons_of_isWhole hwhole
    have hne : first ≠ '-' := ne_of_isDigit hfirst rfl
    rw [literal_of_no_sign (by simpa using hne), unsigned_of_parts hwhole hfraction hexponent hrest]
  | negative hwhole hfraction hexponent =>
    rw [List.cons_append, literal_minus]
    exact unsigned_of_parts hwhole hfraction hexponent hrest

end Reader

end JobImages.Json
