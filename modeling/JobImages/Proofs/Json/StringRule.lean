import JobImages.Json.Reader
import JobImages.Proofs.Json.Meaning

/-!
# Reading strings by the grammar

A string is read one character at a time, and a character is one part of the string by the grammar,
or two of which each gives a half.  So what holds of one character carries over to strings by
induction: on the rounds of the reader for what it takes, and on how the parts pair up for what it
is given.

## Main results

* `Json.Reader.isCharacters_of_stringBody` — what is taken for a string is one, and means what is
  read;
* `Json.Reader.stringBody_of_isCharacters` — a string that means something is taken for that.
-/

namespace JobImages.Json.Reader

open Grammar

variable {text rest : List Char}

/-! ## Code escapes -/

theorem hexDigit?_eq_some_iff {c : Char} {value : Nat} :
    hexDigit? c = some value ↔ IsHexDigit c value := by
  have hdigit : c.isDigit = true ↔ 0x30 ≤ c.toNat ∧ c.toNat ≤ 0x39 := by
    rw [Char.isDigit, Bool.and_eq_true, decide_eq_true_eq, decide_eq_true_eq]
    rfl
  have hlower : 'a' ≤ c ∧ c ≤ 'f' ↔ 0x61 ≤ c.toNat ∧ c.toNat ≤ 0x66 := Iff.rfl
  have hupper : 'A' ≤ c ∧ c ≤ 'F' ↔ 0x41 ≤ c.toNat ∧ c.toNat ≤ 0x46 := Iff.rfl
  have hzero : '0'.toNat = 0x30 := rfl
  have ha : 'a'.toNat = 0x61 := rfl
  have hA : 'A'.toNat = 0x41 := rfl
  simp only [hexDigit?, hdigit, hlower, hupper, hzero, ha, hA, IsHexDigit]
  split
  · rw [Option.some_inj]
    omega
  · split
    · rw [Option.some_inj]
      omega
    · split
      · rw [Option.some_inj]
        omega
      · simp only [reduceCtorEq, false_iff]
        omega

theorem isHighSurrogate_iff {code : Nat} : isHighSurrogate code = true ↔ IsLeading code := by
  simp only [isHighSurrogate, IsLeading, Bool.and_eq_true, decide_eq_true_eq]
  omega

theorem isLowSurrogate_iff {code : Nat} : isLowSurrogate code = true ↔ IsTrailing code := by
  simp only [isLowSurrogate, IsTrailing, Bool.and_eq_true, decide_eq_true_eq]
  omega

theorem length_le_byteLength (text : List Char) : text.length ≤ byteLength text := by
  induction text with
  | nil => exact Nat.le_refl 0
  | cons c rest ih =>
    have hc := Char.utf8Size_pos c
    rw [List.length_cons, byteLength, List.foldr_cons]
    rw [byteLength] at ih
    omega

theorem hexCode_of_isCode {code : Nat} {digits : List Char} (h : IsCode code digits)
    (rest : List Char) : hexCode (digits ++ rest) = .ok (code, rest) := by
  cases h with
  | @mk first second third fourth a b c d ha hb hc hd =>
    have hbytes : ¬byteLength ((first :: second :: third :: fourth :: rest).take 4) < 4 := by
      have hlength := length_le_byteLength ((first :: second :: third :: fourth :: rest).take 4)
      simp only [List.take_succ_cons, List.take_zero, List.length_cons, List.length_nil]
        at hlength ⊢
      omega
    have hcode : ((a * 16 + b) * 16 + c) * 16 + d = 0x1000 * a + 0x100 * b + 0x10 * c + d := by
      omega
    rw [← hexDigit?_eq_some_iff] at ha hb hc hd
    simp only [List.cons_append, List.nil_append, hexCode, if_neg hbytes, ha, hb, hc, hd, hcode]

theorem isCode_of_hexCode {code : Nat} (h : hexCode text = .ok (code, rest)) :
    ∃ digits, IsCode code digits ∧ text = digits ++ rest := by
  unfold hexCode at h
  split at h
  · cases h
  · split at h
    · next first second third fourth others =>
      split at h
      · next a b c d ha hb hc hd =>
        cases h
        have hcode : ((a * 16 + b) * 16 + c) * 16 + d = 0x1000 * a + 0x100 * b + 0x10 * c + d := by
          omega
        rw [hexDigit?_eq_some_iff] at ha hb hc hd
        rw [hcode]
        exact ⟨_, .mk ha hb hc hd, rfl⟩
      · cases h
    · cases h

/-! ## Escapes -/

theorem isCharacters_code {code : Nat} {digits : List Char} (h : IsCode code digits) :
    IsCharacters [.unit code] ('\\' :: 'u' :: digits) := by
  have hone := IsCharacters.cons (.code h) .nil
  rwa [List.append_nil] at hone

/-- `Stands pieces c`: the parts stand for a character, whatever comes behind them. -/
def Stands (pieces : List Piece) (c : Char) : Prop :=
  ∀ more, textOf? (pieces ++ more) = (textOf? more).map (c :: ·)

theorem trailing_of_lowHalf {leading : Nat} {c : Char}
    (h : lowHalf leading text = .ok (c, rest)) :
    ∃ code digits, IsTrailing code ∧ IsCode code digits ∧ c = pairChar leading code ∧
      text = '\\' :: 'u' :: digits ++ rest := by
  unfold lowHalf at h
  split at h
  · cases h
  · split at h
    · cases h
    · obtain ⟨⟨code, afterCode⟩, hcode, hchar⟩ := exists_of_bind_eq_ok h
      obtain ⟨digits, hdigits, rfl⟩ := isCode_of_hexCode hcode
      simp only at hchar
      split at hchar
      · next htrailing =>
        obtain ⟨hc, hafter⟩ := Prod.mk.inj (Except.ok.inj hchar)
        refine ⟨code, digits, isLowSurrogate_iff.1 htrailing, hdigits, ?_, ?_⟩
        · have hsum : (leading - 0xd800) * 0x400 + (code - 0xdc00) + 0x10000 =
              0x10000 + 0x400 * (leading - 0xd800) + (code - 0xdc00) := by
            omega
          rw [← hc, pairChar, hsum]
        · rw [← hafter]
          rfl
      · cases hchar
    · cases h
  · cases h

theorem stands_of_codeEscape {c : Char} (h : codeEscape text = .ok (c, rest)) :
    ∃ pieces spelled, IsCharacters pieces ('\\' :: 'u' :: spelled) ∧ Stands pieces c ∧
      text = spelled ++ rest := by
  obtain ⟨⟨code, afterCode⟩, hcode, hchar⟩ := exists_of_bind_eq_ok h
  obtain ⟨digits, hdigits, rfl⟩ := isCode_of_hexCode hcode
  have hfirst := isCharacters_code hdigits
  simp only at hchar
  by_cases htrailing : IsTrailing code
  · rw [if_pos (isLowSurrogate_iff.2 htrailing)] at hchar
    cases hchar
  · rw [if_neg (mt isLowSurrogate_iff.1 htrailing)] at hchar
    by_cases hleading : IsLeading code
    · -- The character takes both halves.
      rw [if_pos (isHighSurrogate_iff.2 hleading)] at hchar
      obtain ⟨next, others, hnext, hothers, hc, hafter⟩ := trailing_of_lowHalf hchar
      refine ⟨_, digits ++ '\\' :: 'u' :: others, hfirst.append (isCharacters_code hothers),
        fun more => ?_, ?_⟩
      · rw [hc]
        exact textOf?_pair more hleading hnext
      · rw [hafter, List.append_assoc]
    · rw [if_neg (mt isHighSurrogate_iff.1 hleading)] at hchar
      cases hchar
      exact ⟨_, _, hfirst, fun more => textOf?_unit more hleading htrailing, rfl⟩

theorem stands_of_escaped {c : Char} (h : escaped text = .ok (c, rest)) :
    ∃ pieces spelled, IsCharacters pieces ('\\' :: spelled) ∧ Stands pieces c ∧
      text = spelled ++ rest := by
  have hshort : ∀ letter d, (letter, d) ∈ shortEscapes → IsCharacters [.char d] ['\\', letter] := by
    intro letter d hletter
    exact .cons (.short hletter) .nil
  unfold escaped at h
  split at h
  · cases h
  · next letter others =>
    split at h
    case h_9 =>
      obtain ⟨pieces, spelled, hpieces, hstands, rfl⟩ := stands_of_codeEscape h
      exact ⟨pieces, 'u' :: spelled, hpieces, hstands, rfl⟩
    case h_10 => cases h
    -- The other letters stand for one character each.
    all_goals
      cases h
      exact ⟨_, _, hshort _ _ (by decide), fun more => rfl, rfl⟩

/-! ## What is taken for a string -/

/-- What is taken for a string is one, and means what is read. -/
theorem isCharacters_of_stringBody {count : Nat} :
    ∀ {text found rest}, stringBody count text = .ok (found, rest) →
      ∃ pieces spelled, IsCharacters pieces spelled ∧ textOf? pieces = some found ∧
        text = spelled ++ '"' :: rest := by
  induction count with
  | zero =>
    intro text found rest h
    cases h
  | succ count ih =>
    intro text found rest h
    cases text with
    | nil => cases h
    | cons c others =>
      rw [stringBody] at h
      split at h
      · next hquote =>
        cases h
        exact ⟨[], [], .nil, rfl, by rw [hquote]; rfl⟩
      · next hquote =>
        split at h
        · next hbackslash =>
          obtain ⟨⟨first, afterFirst⟩, hfirst, h⟩ := exists_of_bind_eq_ok h
          obtain ⟨⟨more, afterMore⟩, hmore, h⟩ := exists_of_bind_eq_ok h
          cases h
          -- An escape is one part of the string, or two if it gives the halves of a character.
          obtain ⟨front, spelled, hfront, hstands, rfl⟩ := stands_of_escaped hfirst
          obtain ⟨back, unspelled, hback, hmeans, rfl⟩ := ih hmore
          refine ⟨_, _, hfront.append hback, ?_, ?_⟩
          · rw [hstands, hmeans]
            rfl
          · rw [hbackslash]
            simp
        · next hbackslash =>
          split at h
          · cases h
          · next hcontrol =>
            obtain ⟨⟨more, afterMore⟩, hmore, h⟩ := exists_of_bind_eq_ok h
            cases h
            obtain ⟨back, unspelled, hback, hmeans, rfl⟩ := ih hmore
            have hcharacter := IsCharacter.unescaped hquote hbackslash (Nat.le_of_not_lt hcontrol)
            refine ⟨_, _, .cons hcharacter hback, ?_, rfl⟩
            rw [textOf?, hmeans]
            rfl

/-- What is taken for a string behind its quote is one. -/
theorem isString_of_string {found : String} (h : string text = .ok (found, rest)) :
    ∃ pieces spelled, IsString pieces spelled ∧
      (textOf? pieces).map String.ofList = some found ∧ '"' :: text = spelled ++ rest := by
  obtain ⟨⟨body, afterBody⟩, hbody, h⟩ := exists_of_bind_eq_ok h
  cases h
  obtain ⟨pieces, spelled, hpieces, hmeans, rfl⟩ := isCharacters_of_stringBody hbody
  refine ⟨pieces, _, .mk hpieces, by rw [hmeans]; rfl, ?_⟩
  simp

/-! ## What is a string -/

/-- One character is taken off the text, and the others are read from there. -/
theorem stringBody_of_escaped {c : Char} {after : List Char} (count : Nat)
    (h : escaped text = .ok (c, after)) :
    stringBody (count + 1) ('\\' :: text) =
      (stringBody count after).map fun read => (c :: read.1, read.2) := by
  simp only [stringBody, h, bind, Except.bind]
  cases stringBody count after <;> rfl

theorem stringBody_of_unescaped {c : Char} (count : Nat) (hquote : c ≠ '"') (hbackslash : c ≠ '\\')
    (hcontrol : 0x20 ≤ c.toNat) (text : List Char) :
    stringBody (count + 1) (c :: text) =
      (stringBody count text).map fun read => (c :: read.1, read.2) := by
  simp only [stringBody, if_neg hquote, if_neg hbackslash, if_neg (Nat.not_lt.2 hcontrol), bind,
    Except.bind]
  cases stringBody count text <;> rfl

theorem escaped_of_short {letter c : Char} (h : (letter, c) ∈ shortEscapes) (text : List Char) :
    escaped (letter :: text) = .ok (c, text) := by
  simp only [shortEscapes, List.mem_cons, List.not_mem_nil, or_false, Prod.mk.injEq] at h
  rcases h with ⟨rfl, rfl⟩ | ⟨rfl, rfl⟩ | ⟨rfl, rfl⟩ | ⟨rfl, rfl⟩ | ⟨rfl, rfl⟩ | ⟨rfl, rfl⟩ |
    ⟨rfl, rfl⟩ | ⟨rfl, rfl⟩ <;> rfl

theorem escaped_of_unit {code : Nat} {digits : List Char} (hcode : IsCode code digits)
    (hleading : ¬IsLeading code) (htrailing : ¬IsTrailing code) (rest : List Char) :
    escaped ('u' :: (digits ++ rest)) = .ok (Char.ofNat code, rest) := by
  show codeEscape (digits ++ rest) = _
  simp only [codeEscape, hexCode_of_isCode hcode, bind, Except.bind,
    if_neg (mt isLowSurrogate_iff.1 htrailing), if_neg (mt isHighSurrogate_iff.1 hleading)]

theorem escaped_of_pair {leading trailing : Nat} {front back : List Char}
    (hfront : IsCode leading front) (hback : IsCode trailing back) (hleading : IsLeading leading)
    (htrailing : IsTrailing trailing) (rest : List Char) :
    escaped ('u' :: (front ++ '\\' :: 'u' :: (back ++ rest))) =
      .ok (pairChar leading trailing, rest) := by
  have hlow : ¬IsTrailing leading := by
    rw [IsLeading] at hleading
    rw [IsTrailing]
    omega
  have hsum : (leading - 0xd800) * 0x400 + (trailing - 0xdc00) + 0x10000 =
      0x10000 + 0x400 * (leading - 0xd800) + (trailing - 0xdc00) := by
    omega
  show codeEscape (front ++ '\\' :: 'u' :: (back ++ rest)) = _
  simp only [codeEscape, hexCode_of_isCode hfront, bind, Except.bind,
    if_neg (mt isLowSurrogate_iff.1 hlow), if_pos (isHighSurrogate_iff.2 hleading), lowHalf,
    hexCode_of_isCode hback, if_pos (isLowSurrogate_iff.2 htrailing), pairChar, hsum]

/-- A string that means something is taken for that. -/
theorem stringBody_of_isCharacters {pieces : List Piece} (hpaired : Paired pieces) :
    ∀ {spelled found}, IsCharacters pieces spelled → textOf? pieces = some found →
      ∀ (rest : List Char) (count : Nat), pieces.length < count →
        stringBody count (spelled ++ '"' :: rest) = .ok (found, rest) := by
  induction hpaired with
  | nil =>
    intro spelled found hspelled hmeans rest count hcount
    cases hspelled
    cases hmeans
    obtain ⟨count, rfl⟩ := Nat.exists_eq_add_of_lt hcount
    simp [stringBody]
  | @char pieces c hrest ih =>
    intro spelled found hspelled hmeans rest count hcount
    obtain ⟨others, hothers, rfl⟩ := Option.map_eq_some_iff.1 hmeans
    rw [List.length_cons] at hcount
    obtain ⟨count, rfl⟩ : ∃ left, count = left + 1 := ⟨count - 1, by omega⟩
    cases hspelled with
    | cons hfirst htail =>
      have hread := ih htail hothers rest count (by omega)
      cases hfirst with
      | unescaped hquote hbackslash hcontrol =>
        rw [List.append_assoc, List.singleton_append,
          stringBody_of_unescaped count hquote hbackslash hcontrol, hread]
        rfl
      | short hletter =>
        rw [List.append_assoc, List.cons_append, List.singleton_append,
          stringBody_of_escaped count (escaped_of_short hletter _), hread]
        rfl
  | @unit code pieces hleading htrailing hrest ih =>
    intro spelled found hspelled hmeans rest count hcount
    rw [textOf?_unit _ hleading htrailing] at hmeans
    obtain ⟨others, hothers, rfl⟩ := Option.map_eq_some_iff.1 hmeans
    rw [List.length_cons] at hcount
    obtain ⟨count, rfl⟩ : ∃ left, count = left + 1 := ⟨count - 1, by omega⟩
    cases hspelled with
    | cons hfirst htail =>
      have hread := ih htail hothers rest count (by omega)
      cases hfirst with
      | code hcode =>
        rw [List.append_assoc, List.cons_append, List.cons_append,
          stringBody_of_escaped count (escaped_of_unit hcode hleading htrailing _), hread]
        rfl
  | @pair leading trailing pieces hleading htrailing hrest ih =>
    -- Two parts of the string are read in one round.
    intro spelled found hspelled hmeans rest count hcount
    rw [textOf?_pair _ hleading htrailing] at hmeans
    obtain ⟨others, hothers, rfl⟩ := Option.map_eq_some_iff.1 hmeans
    rw [List.length_cons, List.length_cons] at hcount
    obtain ⟨count, rfl⟩ : ∃ left, count = left + 1 := ⟨count - 1, by omega⟩
    cases hspelled with
    | cons hfirst htail =>
      cases htail with
      | cons hsecond hrest =>
        have hread := ih hrest hothers rest count (by omega)
        cases hfirst with
        | code hfront =>
          cases hsecond with
          | code hback =>
            have hescaped := escaped_of_pair hfront hback hleading htrailing
            simp only [List.append_assoc, List.cons_append]
            rw [stringBody_of_escaped count (hescaped _), hread]
            rfl

theorem length_le_of_isCharacters {pieces : List Piece} {spelled : List Char}
    (h : IsCharacters pieces spelled) : pieces.length ≤ spelled.length := by
  induction h with
  | nil => exact Nat.le_refl 0
  | cons hfirst hothers ih =>
    rw [List.length_cons, List.length_append]
    cases hfirst <;> simp only [List.length_cons] <;> omega

/-- A string that means something is taken for that behind its quote. -/
theorem string_of_isString {pieces : List Piece} {spelled : List Char} {found : List Char}
    (h : IsString pieces spelled) (hmeans : textOf? pieces = some found) (rest : List Char) :
    ∃ text, spelled ++ rest = '"' :: text ∧ string text = .ok (String.ofList found, rest) := by
  have hpaired : Paired pieces := (exists_textOf?_iff pieces).1 ⟨found, hmeans⟩
  cases h with
  | @mk inner hinner =>
    have hlength := length_le_of_isCharacters hinner
    have hcount : pieces.length < (inner ++ '"' :: rest).length := by
      rw [List.length_append, List.length_cons]
      omega
    refine ⟨inner ++ '"' :: rest, by simp, ?_⟩
    simp only [string, stringBody_of_isCharacters hpaired hinner hmeans rest _ hcount, bind,
      Except.bind]

end JobImages.Json.Reader
