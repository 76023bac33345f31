import JobImages.Proofs.Json.NumberRule
import JobImages.Proofs.Json.Spelling

/-!
# Scanning JSON for strings

To find the strings of a text, one need not read it.  A quote begins a string, and the next quote
that does not follow a backslash ends it; a backslash takes the character behind it along, whichever
that is.  Between strings stand structural characters and words.

In the compact text of a value, a scan finds the keys and the strings of the value in order, and
between them nothing but structural characters, the three words and numbers.  None of this depends
on what the keys and strings are: whoever chooses them does not get out of the quotes.

## Main definitions

* `Json.Token`, `Token.IsProper` — what a scan finds, and what it should be;
* `Json.scan` — the scan of a text;
* `Json.strings` — the keys and strings of a value, in order;
* `Json.Scanned` — what is found in a part of a text.

## Main results

* `Json.text_of_scan` — a scan loses nothing;
* `Json.scanFrom_of_isCharacters` — a scan goes by the grammar of strings;
* `Json.scanned_write`, `Json.scan_write` — what is found in the text of a value;
* `Json.not_control_of_mem_write` — no character of it is a control.
-/

namespace JobImages.Json

open Grammar

/-! ## Tokens -/

/-- The structural characters. -/
def structural : List Char := ['[', '\x7b', ']', '\x7d', ':', ',']

/-- What a scan finds. -/
inductive Token where
  /-- A structural character. -/
  | mark (c : Char)
  /-- What stands outside of strings between structural characters. -/
  | word (text : List Char)
  /-- A string, by what stands between its quotes. -/
  | literal (spelled : List Char)

namespace Token

/-- The characters of a token. -/
def text : Token → List Char
  | .mark c => [c]
  | .word text => text
  | .literal spelled => '"' :: (spelled ++ ['"'])

/-- What stands between the quotes, if the token is a string. -/
def literal? : Token → Option (List Char)
  | .literal spelled => some spelled
  | _ => none

/-- A token of a JSON text: a structural character, a word or a number, or a string in which all is
escaped that has to be. -/
inductive IsProper : Token → Prop where
  | mark {c : Char} (h : c ∈ structural) : IsProper (.mark c)
  | null : IsProper (.word ['n', 'u', 'l', 'l'])
  | true : IsProper (.word ['t', 'r', 'u', 'e'])
  | false : IsProper (.word ['f', 'a', 'l', 's', 'e'])
  | number {literal : Literal} {text : List Char} (h : IsNumber literal text) :
      IsProper (.word text)
  | literal {pieces : List Piece} {spelled : List Char} (h : IsCharacters pieces spelled) :
      IsProper (.literal spelled)

end Token

/-! ## The scan -/

/-- What a scan has begun and not ended. -/
inductive Begun where
  /-- A word, or nothing if no character is there yet. -/
  | word (text : List Char)
  /-- A string. -/
  | literal (spelled : List Char)
  /-- A string, of which a backslash is the last character so far. -/
  | escape (spelled : List Char)

/-- The characters that were taken for it. -/
def Begun.text : Begun → List Char
  | .word text => text
  | .literal spelled => '"' :: spelled
  | .escape spelled => '"' :: spelled

/-- The word that ends, if it has any characters. -/
def endWord (text : List Char) : List Token :=
  if text.isEmpty then [] else [.word text]

/-- The tokens of a text of which some was begun before; there are none if a string does not end. -/
def scanFrom : Begun → List Char → Option (List Token)
  -- Only words end where the text does.
  | .word text, [] => some (endWord text)
  | .literal _, [] => none
  | .escape _, [] => none
  -- Outside of strings a backslash is a character like others.
  | .word text, c :: rest =>
    if c = '"' then (scanFrom (.literal []) rest).map (endWord text ++ ·)
    else if c ∈ structural then
      (scanFrom (.word []) rest).map (endWord text ++ .mark c :: ·)
    else scanFrom (.word (text ++ [c])) rest
  | .literal spelled, c :: rest =>
    if c = '"' then (scanFrom (.word []) rest).map (.literal spelled :: ·)
    else if c = '\\' then scanFrom (.escape (spelled ++ [c])) rest
    else scanFrom (.literal (spelled ++ [c])) rest
  | .escape spelled, c :: rest => scanFrom (.literal (spelled ++ [c])) rest

/-- The tokens of a text. -/
def scan (text : List Char) : Option (List Token) :=
  scanFrom (.word []) text

theorem flatMap_text_endWord (text : List Char) : (endWord text).flatMap Token.text = text := by
  cases text with
  | nil => rfl
  | cons c rest => exact List.append_nil _

/-- A scan loses nothing. -/
theorem text_of_scanFrom {begun : Begun} {text : List Char} :
    ∀ {tokens}, scanFrom begun text = some tokens →
      tokens.flatMap Token.text = begun.text ++ text := by
  -- What was taken of the text by then is in what has been begun.
  induction text generalizing begun with
  | nil =>
    intro tokens h
    cases begun with
    | word text =>
      cases h
      rw [flatMap_text_endWord, Begun.text, List.append_nil]
    | literal spelled => cases h
    | escape spelled => cases h
  | cons c rest ih =>
    intro tokens h
    cases begun with
    | word text =>
      rw [scanFrom] at h
      split at h
      · next hquote =>
        obtain ⟨others, hothers, rfl⟩ := Option.map_eq_some_iff.1 h
        rw [List.flatMap_append, flatMap_text_endWord, ih hothers, hquote]
        rfl
      · split at h
        · obtain ⟨others, hothers, rfl⟩ := Option.map_eq_some_iff.1 h
          rw [List.flatMap_append, flatMap_text_endWord, List.flatMap_cons, ih hothers]
          rfl
        · rw [ih h]
          exact List.append_assoc _ _ _
    | literal spelled =>
      rw [scanFrom] at h
      split at h
      · next hquote =>
        obtain ⟨others, hothers, rfl⟩ := Option.map_eq_some_iff.1 h
        rw [List.flatMap_cons, ih hothers, hquote]
        simp [Token.text, Begun.text]
      · split at h
        · rw [ih h]
          simp [Begun.text]
        · rw [ih h]
          simp [Begun.text]
    | escape spelled =>
      -- Whatever the character is, it joins the string.
      have hrest : scanFrom (.literal (spelled ++ [c])) rest = some tokens := h
      rw [ih hrest]
      simp [Begun.text]

theorem text_of_scan {text : List Char} {tokens : List Token} (h : scan text = some tokens) :
    tokens.flatMap Token.text = text :=
  text_of_scanFrom h

/-- A structural character in a string is one of its characters, and so is an escaped quote. -/
example : scan ['[', '"', 'a', ',', '\\', '"', '"', ',', '1', ']'] =
    some [.mark '[', .literal ['a', ',', '\\', '"'], .mark ',', .word ['1'], .mark ']'] := rfl

/-! ## Strings -/

theorem scanFrom_quote (rest : List Char) :
    scanFrom (.word []) ('"' :: rest) = scanFrom (.literal []) rest :=
  Option.map_id'


/-- No hexadecimal digit ends a string or begins an escape. -/
theorem ne_of_isHexDigit {c : Char} {value : Nat} (h : IsHexDigit c value) :
    c ≠ '"' ∧ c ≠ '\\' := by
  constructor
  · rintro rfl
    simp [IsHexDigit] at h
    omega
  · rintro rfl
    simp [IsHexDigit] at h
    omega

theorem scanFrom_literal_cons {c : Char} (spelled rest : List Char) (h : c ≠ '"' ∧ c ≠ '\\') :
    scanFrom (.literal spelled) (c :: rest) = scanFrom (.literal (spelled ++ [c])) rest := by
  rw [scanFrom, if_neg h.1, if_neg h.2]

/-- A part of a string leaves a scan within the string. -/
theorem scanFrom_of_isCharacter {piece : Piece} {spelled : List Char}
    (h : IsCharacter piece spelled) (front rest : List Char) :
    scanFrom (.literal front) (spelled ++ rest) = scanFrom (.literal (front ++ spelled)) rest := by
  cases h with
  | unescaped hquote hbackslash hcontrol =>
    exact scanFrom_literal_cons front rest ⟨hquote, hbackslash⟩
  | @short letter c hletter =>
    -- Whichever the letter is, it is passed over.
    show scanFrom (.literal (front ++ ['\\'] ++ [letter])) rest = _
    rw [List.append_assoc, List.singleton_append]
  | code hcode =>
    cases hcode with
    | @mk first second third fourth a b c d ha hb hc hd =>
      -- The letter of the escape is passed over, and the digits are characters like others.
      show scanFrom (.literal (front ++ ['\\'] ++ ['u']))
        (first :: second :: third :: fourth :: rest) = _
      rw [scanFrom_literal_cons _ _ (ne_of_isHexDigit ha),
        scanFrom_literal_cons _ _ (ne_of_isHexDigit hb),
        scanFrom_literal_cons _ _ (ne_of_isHexDigit hc),
        scanFrom_literal_cons _ _ (ne_of_isHexDigit hd)]
      simp

/-- A scan goes by the grammar of strings: what spells a string is found between the quotes, and the
scan goes on behind them. -/
theorem scanFrom_of_isCharacters {pieces : List Piece} {spelled : List Char}
    (h : IsCharacters pieces spelled) (rest : List Char) :
    ∀ front, scanFrom (.literal front) (spelled ++ '"' :: rest) =
      (scanFrom (.word []) rest).map (.literal (front ++ spelled) :: ·) := by
  induction h with
  | nil =>
    intro front
    rw [List.nil_append, List.append_nil]
    rfl
  | cons hfirst hothers ih =>
    intro front
    rw [List.append_assoc, scanFrom_of_isCharacter hfirst, ih, List.append_assoc]

/-- What spells a text is read as the text. -/
theorem string_of_isCharacters {text : String} {spelled : List Char}
    (h : IsCharacters (pieces text) spelled) (rest : List Char) :
    Reader.string (spelled ++ '"' :: rest) = .ok (text, rest) := by
  obtain ⟨found, hfound, hread⟩ :=
    Reader.string_of_isString (.mk h) (textOf?_pieces text) rest
  rw [List.cons_append, List.append_assoc] at hfound
  cases hfound
  rwa [String.ofList_toList] at hread

/-! ## Words -/

theorem scanFrom_word_append {text : List Char} (h : ∀ c ∈ text, c ≠ '"' ∧ c ∉ structural)
    (rest : List Char) :
    ∀ front, scanFrom (.word front) (text ++ rest) = scanFrom (.word (front ++ text)) rest := by
  induction text with
  | nil =>
    intro front
    rw [List.nil_append, List.append_nil]
  | cons c others ih =>
    intro front
    obtain ⟨⟨hquote, hmark⟩, hothers⟩ := List.forall_mem_cons.1 h
    rw [List.cons_append, scanFrom, if_neg hquote, if_neg hmark, ih hothers, List.append_assoc,
      List.singleton_append]

/-- Where a word ends: before a structural character, and where the text ends. -/
def EndsWord (rest : List Char) : Prop :=
  ∀ c ∈ rest.head?, c ∈ structural

theorem endsWord_nil : EndsWord [] := by
  intro c hc
  cases hc

theorem endsWord_cons {c : Char} (rest : List Char) (h : c ∈ structural) :
    EndsWord (c :: rest) := by
  intro d hd
  cases hd
  exact h

theorem ne_quote_of_mem_structural {c : Char} (h : c ∈ structural) : c ≠ '"' := by
  rintro rfl
  exact absurd h (by decide)

theorem scanFrom_mark {c : Char} (h : c ∈ structural) (rest : List Char) :
    scanFrom (.word []) (c :: rest) = (scanFrom (.word []) rest).map (.mark c :: ·) := by
  rw [scanFrom, if_neg (ne_quote_of_mem_structural h), if_pos h]
  rfl

theorem scanFrom_word_of_endsWord {rest : List Char} (h : EndsWord rest) (text : List Char) :
    scanFrom (.word text) rest = (scanFrom (.word []) rest).map (endWord text ++ ·) := by
  cases rest with
  | nil => exact congrArg some (List.append_nil _).symm
  | cons c rest =>
    have hmark : c ∈ structural := h c rfl
    rw [scanFrom_mark hmark, scanFrom, if_neg (ne_quote_of_mem_structural hmark), if_pos hmark,
      Option.map_map]
    rfl

/-! ## Numbers -/

/-- The characters that numbers are spelled with. -/
def IsNumeral (c : Char) : Prop :=
  c.isDigit = true ∨ c ∈ ['-', '+', '.', 'e', 'E']

theorem isNumeral_of_isWhole {text : List Char} (h : IsWhole text) : ∀ c ∈ text, IsNumeral c := by
  cases h with
  | zero => exact List.forall_mem_singleton.2 (.inl rfl)
  | other hfirst _ hothers =>
    exact List.forall_mem_cons.2 ⟨.inl hfirst, fun c hc => .inl (hothers c hc)⟩

theorem isNumeral_of_isFraction {fraction : Option (List Char)} {text : List Char}
    (h : IsFraction fraction text) : ∀ c ∈ text, IsNumeral c := by
  cases h with
  | absent => exact List.forall_mem_nil _
  | present hdigits =>
    exact List.forall_mem_cons.2 ⟨.inr (by decide), fun c hc => .inl (hdigits.2 c hc)⟩

theorem isNumeral_of_isExponent {exponent : Option Literal.Exponent} {text : List Char}
    (h : IsExponent exponent text) : ∀ c ∈ text, IsNumeral c := by
  have hletter : ∀ letter, letter = 'e' ∨ letter = 'E' → IsNumeral letter := by
    rintro _ (rfl | rfl)
    · exact .inr (by decide)
    · exact .inr (by decide)
  cases h with
  | absent => exact List.forall_mem_nil _
  | bare he hdigits =>
    exact List.forall_mem_cons.2 ⟨hletter _ he, fun c hc => .inl (hdigits.2 c hc)⟩
  | plus he hdigits =>
    exact List.forall_mem_cons.2 ⟨hletter _ he,
      List.forall_mem_cons.2 ⟨.inr (by decide), fun c hc => .inl (hdigits.2 c hc)⟩⟩
  | minus he hdigits =>
    exact List.forall_mem_cons.2 ⟨hletter _ he,
      List.forall_mem_cons.2 ⟨.inr (by decide), fun c hc => .inl (hdigits.2 c hc)⟩⟩

theorem isNumeral_of_isNumber {literal : Literal} {text : List Char} (h : IsNumber literal text) :
    text ≠ [] ∧ ∀ c ∈ text, IsNumeral c := by
  cases h with
  | positive hwhole hfraction hexponent =>
    refine ⟨?_, ?_⟩
    · cases hwhole <;> exact List.cons_ne_nil _ _
    · simp only [List.forall_mem_append]
      exact ⟨isNumeral_of_isWhole hwhole, isNumeral_of_isFraction hfraction,
        isNumeral_of_isExponent hexponent⟩
  | negative hwhole hfraction hexponent =>
    refine ⟨List.cons_ne_nil _ _, ?_⟩
    simp only [List.forall_mem_cons, List.forall_mem_append]
    exact ⟨.inr (by decide), isNumeral_of_isWhole hwhole, isNumeral_of_isFraction hfraction,
      isNumeral_of_isExponent hexponent⟩

/-- No character of a number begins a string, is structural or a control. -/
theorem plain_of_isNumeral {c : Char} (h : IsNumeral c) :
    c ≠ '"' ∧ c ∉ structural ∧ 0x20 ≤ c.toNat := by
  rcases h with hdigit | hother
  · have hmark : ∀ d ∈ structural, d.isDigit = false := by simp [structural]
    have hrange : 0x30 ≤ c.toNat ∧ c.toNat ≤ 0x39 := by
      rw [Char.isDigit, Bool.and_eq_true, decide_eq_true_eq, decide_eq_true_eq] at hdigit
      exact hdigit
    exact ⟨Reader.ne_of_isDigit hdigit rfl,
      fun hc => Reader.ne_of_isDigit hdigit (hmark c hc) rfl, by omega⟩
  · have hall : ∀ d ∈ ['-', '+', '.', 'e', 'E'], d ≠ '"' ∧ d ∉ structural ∧ 0x20 ≤ d.toNat := by
      simp [structural]
    exact hall c hother

/-! ## What is found -/

/-- `Scanned text strings`: what is found in a part of a text that does not begin within a word and
does not end within one.  The strings are spelled there in order, and the tokens are those of a JSON
text. -/
def Scanned (text : List Char) (strings : List String) : Prop :=
  ∃ tokens : List Token,
    (∀ rest, EndsWord rest →
      scanFrom (.word []) (text ++ rest) = (scanFrom (.word []) rest).map (tokens ++ ·)) ∧
    (∀ token ∈ tokens, token.IsProper) ∧
    List.Forall₂ (fun spelled string => IsCharacters (pieces string) spelled)
      (tokens.filterMap Token.literal?) strings

namespace Scanned

variable {text more : List Char} {strings others : List String}

theorem nil : Scanned [] [] := by
  refine ⟨[], fun rest _ => ?_, List.forall_mem_nil _, .nil⟩
  simp

theorem word (hne : text ≠ []) (hplain : ∀ c ∈ text, c ≠ '"' ∧ c ∉ structural)
    (hproper : (Token.word text).IsProper) : Scanned text [] := by
  refine ⟨[.word text], fun rest hrest => ?_, by simpa using hproper, .nil⟩
  have hword : endWord text = [.word text] := if_neg (by simpa using hne)
  rw [scanFrom_word_append hplain, scanFrom_word_of_endsWord hrest, List.nil_append, hword]

theorem number (n : Number) : Scanned (writeNumber n) [] := by
  have hnumber := isNumber_writeNumber n
  obtain ⟨hne, hall⟩ := isNumeral_of_isNumber hnumber
  refine .word hne (fun c hc => ?_) (.number hnumber)
  obtain ⟨hquote, hmark, -⟩ := plain_of_isNumeral (hall c hc)
  exact ⟨hquote, hmark⟩

theorem literal (string : String) : Scanned (writeString string) [string] := by
  have hspelled := isCharacters_escape string
  refine ⟨[.literal (string.toList.flatMap escape)], fun rest _ => ?_, ?_, ?_⟩
  · rw [writeString, List.append_assoc, List.cons_append, scanFrom_quote]
    exact scanFrom_of_isCharacters hspelled rest []
  · simpa using Token.IsProper.literal hspelled
  · exact .cons hspelled .nil

/-- Between two parts stands a structural character. -/
theorem mark {c : Char} (hc : c ∈ structural) (h : Scanned text strings)
    (hmore : Scanned more others) : Scanned (text ++ c :: more) (strings ++ others) := by
  obtain ⟨front, hfront, hfrontProper, hfrontStrings⟩ := h
  obtain ⟨back, hback, hbackProper, hbackStrings⟩ := hmore
  refine ⟨front ++ .mark c :: back, fun rest hrest => ?_, ?_, ?_⟩
  · -- The first part may end with a word, since a structural character comes next.
    rw [List.append_assoc, List.cons_append, hfront _ (endsWord_cons _ hc), scanFrom_mark hc,
      hback _ hrest, Option.map_map, Option.map_map]
    congr 1
    funext tokens
    simp
  · simp only [List.forall_mem_append, List.forall_mem_cons]
    exact ⟨hfrontProper, .mark hc, hbackProper⟩
  · rw [List.filterMap_append]
    exact List.rel_append hfrontStrings hbackStrings

end Scanned

/-! ## The text of a value -/

mutual

/-- The keys and strings of a value, in order. -/
def strings : Json → List String
  | .string text => [text]
  | .array items => stringsOfItems items
  | .object members => stringsOfMembers members
  | _ => []

/-- The keys and strings of some elements. -/
def stringsOfItems : List Json → List String
  | [] => []
  | item :: rest => strings item ++ stringsOfItems rest

/-- The keys and strings of some members, each key before what is in its value. -/
def stringsOfMembers : List (String × Json) → List String
  | [] => []
  | (key, value) :: rest => key :: strings value ++ stringsOfMembers rest

end

mutual

/-- In the text of a value its keys and strings are found. -/
theorem scanned_write : ∀ value : Json, Scanned (write value) (strings value)
  | .null => .word (by decide) (by simp [structural, write]) .null
  | .bool true => .word (by decide) (by simp [structural, write]) .true
  | .bool false => .word (by decide) (by simp [structural, write]) .false
  | .number n => .number n
  | .string text => .literal text
  -- A container is two structural characters with a part between them.
  | .array items => by
    have hitems := (scanned_writeItems items).mark (c := ']') (by decide) .nil
    have harray := Scanned.nil.mark (c := '[') (by decide) hitems
    rwa [List.append_nil] at harray
  | .object members => by
    have hmembers := (scanned_writeMembers members).mark (c := '\x7d') (by decide) .nil
    have hobject := Scanned.nil.mark (c := '\x7b') (by decide) hmembers
    rwa [List.append_nil] at hobject

theorem scanned_writeItems :
    ∀ items : List Json, Scanned (writeItems items) (stringsOfItems items)
  | [] => .nil
  | [item] => by
    rw [writeItems, stringsOfItems, stringsOfItems, List.append_nil]
    exact scanned_write item
  | first :: second :: others => by
    rw [writeItems, stringsOfItems]
    · exact (scanned_write first).mark (by decide) (scanned_writeItems (second :: others))
    · exact List.cons_ne_nil second others

theorem scanned_writeMembers :
    ∀ members : List (String × Json), Scanned (writeMembers members) (stringsOfMembers members)
  | [] => .nil
  | [(key, value)] => by
    rw [writeMembers, stringsOfMembers, stringsOfMembers, List.append_nil]
    exact (Scanned.literal key).mark (by decide) (scanned_write value)
  | (key, value) :: second :: others => by
    have hmember := (Scanned.literal key).mark (c := ':') (by decide) (scanned_write value)
    rw [writeMembers, stringsOfMembers]
    · exact hmember.mark (by decide) (scanned_writeMembers (second :: others))
    · exact List.cons_ne_nil second others

end

/-- A scan of the text of a value finds its keys and strings in order, and all else is as it should
be. -/
theorem scan_write (value : Json) :
    ∃ tokens, scan (write value) = some tokens ∧ (∀ token ∈ tokens, token.IsProper) ∧
      List.Forall₂ (fun spelled string => IsCharacters (pieces string) spelled)
        (tokens.filterMap Token.literal?) (strings value) := by
  obtain ⟨tokens, hscan, hproper, hstrings⟩ := scanned_write value
  refine ⟨tokens, ?_, hproper, hstrings⟩
  have hwhole := hscan [] endsWord_nil
  rw [List.append_nil] at hwhole
  rw [scan, hwhole]
  exact congrArg some (List.append_nil tokens)

/-! ## Controls -/

theorem le_toNat_of_isHexDigit {c : Char} {value : Nat} (h : IsHexDigit c value) :
    0x20 ≤ c.toNat := by
  unfold IsHexDigit at h
  omega

/-- A part of a string is spelled without controls. -/
theorem le_toNat_of_isCharacter {piece : Piece} {spelled : List Char}
    (h : IsCharacter piece spelled) : ∀ c ∈ spelled, 0x20 ≤ c.toNat := by
  cases h with
  | unescaped hquote hbackslash hcontrol => exact List.forall_mem_singleton.2 hcontrol
  | short hletter =>
    have hall : ∀ entry ∈ shortEscapes, 0x20 ≤ entry.1.toNat := by decide
    exact List.forall_mem_cons.2 ⟨by decide, List.forall_mem_singleton.2 (hall _ hletter)⟩
  | code hcode =>
    cases hcode with
    | mk ha hb hc hd =>
      simp only [List.forall_mem_cons]
      exact ⟨by decide, by decide, le_toNat_of_isHexDigit ha, le_toNat_of_isHexDigit hb,
        le_toNat_of_isHexDigit hc, le_toNat_of_isHexDigit hd, List.forall_mem_nil _⟩

theorem le_toNat_of_isCharacters {pieces : List Piece} {spelled : List Char}
    (h : IsCharacters pieces spelled) : ∀ c ∈ spelled, 0x20 ≤ c.toNat := by
  induction h with
  | nil => exact List.forall_mem_nil _
  | cons hfirst hothers ih =>
    rw [List.forall_mem_append]
    exact ⟨le_toNat_of_isCharacter hfirst, ih⟩

theorem Token.IsProper.le_toNat {token : Token} (h : token.IsProper) :
    ∀ c ∈ token.text, 0x20 ≤ c.toNat := by
  cases h with
  | @mark c hc =>
    have hall : ∀ d ∈ structural, 0x20 ≤ d.toNat := by simp [structural]
    exact List.forall_mem_singleton.2 (hall c hc)
  | null => simp [Token.text]
  | true => simp [Token.text]
  | false => simp [Token.text]
  | number hnumber =>
    intro c hc
    exact (plain_of_isNumeral ((isNumeral_of_isNumber hnumber).2 c hc)).2.2
  | literal hspelled =>
    simp only [Token.text, List.forall_mem_cons, List.forall_mem_append]
    exact ⟨by decide, le_toNat_of_isCharacters hspelled, by decide, List.forall_mem_nil _⟩

/-- The text of a value has no controls. -/
theorem not_control_of_mem_write {value : Json} {c : Char} (h : c ∈ write value) :
    0x20 ≤ c.toNat := by
  obtain ⟨tokens, hscan, hproper, -⟩ := scan_write value
  rw [← text_of_scan hscan] at h
  obtain ⟨token, htoken, hc⟩ := List.mem_flatMap.1 h
  exact (hproper token htoken).le_toNat c hc

end JobImages.Json
