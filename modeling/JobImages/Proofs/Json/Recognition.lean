import JobImages.Proofs.Json.NumberRule
import JobImages.Proofs.Json.StringRule

/-!
# Documents are what is read

A reader that allows some depth takes exactly the phrases that mean something and nest no deeper,
and gives their values.  Both directions go by induction on the depth: what is in a container is
read by a reader that allows one level less.  Within a container the elements and members follow
each other as the rules have them, and are read one in a round.

## Main definitions

* `Json.Reader.TakesPhrases` — all that a reader takes is a phrase with its meaning;
* `Json.Reader.GivesPhrases` — all phrases with a meaning are taken by a reader.

## Main results

* `Json.Reader.takesPhrases_value`, `Json.Reader.givesPhrases_value` — a reader of values has both;
* `Json.readNested_eq_ok_iff` — a text is read if it is a document that means something and nests
  no deeper than allowed;
* `Json.fits_of_readNested` — what is read fits the depth.
-/

namespace JobImages.Json

open Grammar

/-- Whether a character can begin a value. -/
def beginsValue (c : Char) : Bool :=
  !Reader.isBlank c && c != ']'

theorem beginsValue_iff {c : Char} :
    beginsValue c = true ↔ Reader.isBlank c = false ∧ c ≠ ']' := by
  rw [beginsValue, Bool.and_eq_true, Bool.not_eq_true', bne_iff_ne]

theorem beginsValue_of_isDigit {c : Char} (h : c.isDigit = true) : beginsValue c = true := by
  have hne : ∀ d : Char, d.isDigit = false → c ≠ d := fun d hd => Reader.ne_of_isDigit h hd
  simp only [beginsValue_iff, Reader.isBlank, Bool.or_eq_false_iff, beq_eq_false_iff_ne]
  exact ⟨⟨⟨⟨hne _ rfl, hne _ rfl⟩, hne _ rfl⟩, hne _ rfl⟩, hne _ rfl⟩

namespace Reader

variable {text rest before after : List Char}

/-! ## Blanks -/

theorem isBlank_iff {c : Char} : isBlank c = true ↔ c ∈ [' ', '\t', '\n', '\r'] := by
  simp only [isBlank, Bool.or_eq_true, beq_iff_eq, List.mem_cons, List.not_mem_nil, or_false]
  constructor
  · rintro (((h | h) | h) | h) <;> simp [h]
  · rintro (h | h | h | h) <;> simp [h]

theorem skipBlanks_cons {c : Char} (rest : List Char) (h : isBlank c = false) :
    skipBlanks (c :: rest) = c :: rest :=
  List.dropWhile_cons_of_neg (by simp [h])

theorem skipBlanks_append (h : IsBlank before) (rest : List Char) :
    skipBlanks (before ++ rest) = skipBlanks rest :=
  List.dropWhile_append_of_pos fun c hc => isBlank_iff.2 (h c hc)

/-- What is skipped is blank. -/
theorem exists_blank_append (text : List Char) :
    ∃ before, IsBlank before ∧ text = before ++ skipBlanks text :=
  ⟨text.takeWhile isBlank, fun _ hc => isBlank_iff.1 (List.mem_takeWhile_imp hc),
    List.takeWhile_append_dropWhile.symm⟩

theorem isBlank_append (hbefore : IsBlank before) (hafter : IsBlank after) :
    IsBlank (before ++ after) := by
  intro c hc
  rcases List.mem_append.1 hc with hc | hc
  · exact hbefore c hc
  · exact hafter c hc

theorem isBlank_nil : IsBlank [] :=
  List.forall_mem_nil _

/-- Blanks do not go on with a number. -/
theorem delimited_blank_append (h : IsBlank before) (hrest : Delimited rest) :
    Delimited (before ++ rest) := by
  cases before with
  | nil => exact hrest
  | cons c others =>
    refine delimited_cons _ ?_
    have hc := h c List.mem_cons_self
    simp only [List.mem_cons, List.not_mem_nil, or_false] at hc
    rcases hc with rfl | rfl | rfl | rfl <;> rfl

/-! ## How phrases begin -/

/-- A number begins with its sign or with a digit. -/
theorem eq_cons_of_isNumber {literal : Literal} {core : List Char} (h : IsNumber literal core) :
    ∃ first others, core = first :: others ∧ (first = '-' ∨ first.isDigit = true) := by
  cases h with
  | positive hwhole hfraction hexponent =>
    obtain ⟨first, others, rfl, hfirst⟩ := eq_cons_of_isWhole hwhole
    exact ⟨first, _, rfl, .inr hfirst⟩
  | negative hwhole hfraction hexponent => exact ⟨'-', _, rfl, .inl rfl⟩

theorem eq_cons_of_isValue {phrase : Phrase} {core : List Char} (h : IsValue phrase core) :
    ∃ first others, core = first :: others ∧ beginsValue first = true := by
  cases h with
  | number hnumber =>
    obtain ⟨first, others, rfl, rfl | hdigit⟩ := eq_cons_of_isNumber hnumber
    · exact ⟨_, _, rfl, rfl⟩
    · exact ⟨_, _, rfl, beginsValue_of_isDigit hdigit⟩
  | string hstring =>
    cases hstring
    exact ⟨_, _, rfl, rfl⟩
  | null => exact ⟨_, _, rfl, rfl⟩
  | true => exact ⟨_, _, rfl, rfl⟩
  | false => exact ⟨_, _, rfl, rfl⟩
  | emptyArray hblank => exact ⟨_, _, rfl, rfl⟩
  | array hitems => exact ⟨_, _, rfl, rfl⟩
  | emptyObject hblank => exact ⟨_, _, rfl, rfl⟩
  | object hmembers => exact ⟨_, _, rfl, rfl⟩

theorem solid_of_isValue {phrase : Phrase} {core : List Char} (h : IsValue phrase core) :
    ∃ c others, core = c :: others ∧ isBlank c = false := by
  obtain ⟨first, others, rfl, hfirst⟩ := eq_cons_of_isValue h
  exact ⟨first, others, rfl, (beginsValue_iff.1 hfirst).1⟩

theorem solid_of_isMember {rule : Phrase → List Char → Prop} {part : List Piece × Phrase}
    {core : List Char} (h : IsMember rule part core) :
    ∃ c others, core = c :: others ∧ isBlank c = false := by
  cases h with
  | mk hkey hbefore hafter hvalue =>
    cases hkey
    exact ⟨_, _, rfl, rfl⟩

theorem skipBlanks_value {phrase : Phrase} {core : List Char} (hbefore : IsBlank before)
    (hcore : IsValue phrase core) (rest : List Char) :
    skipBlanks (before ++ (core ++ rest)) = core ++ rest := by
  obtain ⟨first, others, rfl, hfirst⟩ := eq_cons_of_isValue hcore
  rw [skipBlanks_append hbefore]
  exact skipBlanks_cons _ (beginsValue_iff.1 hfirst).1

theorem isSeparated_blank_append {α : Type} {rule : α → List Char → Prop} {parts : List α}
    (hbefore : IsBlank before) (h : IsSeparated rule parts text) :
    IsSeparated rule parts (before ++ text) := by
  cases h with
  | last hblank hpart hafter =>
    rw [← List.append_assoc]
    exact .last (isBlank_append hbefore hblank) hpart hafter
  | comma hblank hpart hafter hparts =>
    rw [← List.append_assoc]
    exact .comma (isBlank_append hbefore hblank) hpart hafter hparts

/-! ## What is taken for a value -/

/-- Whatever the reader takes is a phrase behind blanks, with its meaning, that nests no deeper. -/
def TakesPhrases (depth : Nat) (element : Reader Json) : Prop :=
  ∀ {text value rest}, element text = .ok (value, rest) →
    ∃ phrase before core, IsBlank before ∧ IsValue phrase core ∧ phrase.nesting ≤ depth ∧
      phrase.value? = some value ∧ text = before ++ (core ++ rest)

section Taken

variable {depth : Nat} {element : Reader Json} (helement : TakesPhrases depth element)

include helement

theorem isSeparated_of_elements {count : Nat} : ∀ {text values rest},
    elements element count text = .ok (values, rest) →
      ∃ items spelled, IsSeparated IsValue items spelled ∧ (∀ item ∈ items, item.nesting ≤ depth) ∧
        Phrase.items? items = some values ∧ text = spelled ++ ']' :: rest := by
  -- A round takes one item.  Behind a bracket there is no more, behind a comma the next round.
  induction count with
  | zero =>
    intro text values rest h
    cases h
  | succ count ih =>
    intro text values rest h
    obtain ⟨⟨first, afterFirst⟩, hfirst, hloop⟩ := exists_of_bind_eq_ok h
    obtain ⟨phrase, before, core, hbefore, hcore, hdepth, hmeans, rfl⟩ := helement hfirst
    obtain ⟨after, hafter, hskip⟩ := exists_blank_append afterFirst
    simp only at hloop
    split at hloop
    · cases hloop
    · next behind heq =>
      cases hloop
      rw [hskip, heq]
      refine ⟨[phrase], _, .last hbefore hcore hafter, by simpa using hdepth, ?_, by simp⟩
      exact Phrase.items?_cons_eq_some_iff.2 ⟨first, [], hmeans, rfl, rfl⟩
    · next behind heq =>
      obtain ⟨gap, hgap, hbehind⟩ := exists_blank_append behind
      split at hloop
      · cases hloop
      · cases hloop
      · obtain ⟨⟨others, afterOthers⟩, hothers, hresult⟩ := exists_of_bind_eq_ok hloop
        cases hresult
        obtain ⟨items, spelled, hitems, hdepths, hmeanings, hsplit⟩ := ih hothers
        rw [hskip, heq, hbehind, hsplit]
        refine ⟨phrase :: items, _,
          .comma hbefore hcore hafter (isSeparated_blank_append hgap hitems),
          List.forall_mem_cons.2 ⟨hdepth, hdepths⟩, ?_, by simp⟩
        exact Phrase.items?_cons_eq_some_iff.2 ⟨first, others, hmeans, hmeanings, rfl⟩
    · cases hloop

theorem isValue_of_array {values : List Json} (h : array element text = .ok (values, rest)) :
    ∃ items spelled, IsValue (.array items) ('[' :: spelled) ∧
      (Phrase.array items).nesting ≤ depth + 1 ∧
      (Phrase.array items).value? = some (.array values) ∧ text = spelled ++ rest := by
  obtain ⟨gap, hgap, htext⟩ := exists_blank_append text
  rw [array] at h
  split at h
  · cases h
  · next behind heq =>
    cases h
    rw [htext, heq]
    exact ⟨[], _, .emptyArray hgap, Nat.succ_le_succ (Nat.zero_le _), rfl, by simp⟩
  · obtain ⟨items, spelled, hitems, hdepths, hmeanings, hsplit⟩ :=
      isSeparated_of_elements helement h
    rw [htext, hsplit]
    refine ⟨items, _, .array (isSeparated_blank_append hgap hitems), ?_, ?_, by simp⟩
    · exact Nat.succ_le_succ ((Phrase.nestingItems_le_iff items).2 hdepths)
    · rw [Phrase.value?, hmeanings]
      rfl

/-- What is taken for a member behind its quote is one. -/
theorem isMember_of_member {write : String × Json} (h : member element text = .ok (write, rest)) :
    ∃ key phrase spelled found, IsMember IsValue (key, phrase) spelled ∧ phrase.nesting ≤ depth ∧
      textOf? key = some found ∧ phrase.value? = some write.2 ∧ write.1 = String.ofList found ∧
      '"' :: text = spelled ++ rest := by
  obtain ⟨⟨name, afterKey⟩, hkey, hcolon⟩ := exists_of_bind_eq_ok h
  obtain ⟨key, front, hfront, hname, htext⟩ := isString_of_string hkey
  obtain ⟨found, hfound, rfl⟩ := Option.map_eq_some_iff.1 hname
  obtain ⟨before, hbefore, hskip⟩ := exists_blank_append afterKey
  simp only at hcolon
  split at hcolon
  · cases hcolon
  · next behind heq =>
    obtain ⟨⟨value, afterValue⟩, hvalue, hresult⟩ := exists_of_bind_eq_ok hcolon
    cases hresult
    obtain ⟨phrase, after, back, hafter, hback, hdepth, hmeans, rfl⟩ := helement hvalue
    refine ⟨key, phrase, _, found, .mk hfront hbefore hafter hback, hdepth, hfound, hmeans, rfl, ?_⟩
    rw [htext, hskip, heq]
    simp
  · cases hcolon

theorem isSeparated_of_members {count : Nat} : ∀ {text writes rest},
    members element count text = .ok (writes, rest) →
      ∃ parts spelled, IsSeparated (IsMember IsValue) parts spelled ∧
        (∀ part ∈ parts, part.2.nesting ≤ depth) ∧ Phrase.writes? parts = some writes ∧
        '"' :: text = spelled ++ '\x7d' :: rest := by
  -- The quote of the first key has been taken before the round begins.
  induction count with
  | zero =>
    intro text writes rest h
    cases h
  | succ count ih =>
    intro text writes rest h
    obtain ⟨⟨⟨name, value⟩, afterFirst⟩, hfirst, hloop⟩ := exists_of_bind_eq_ok h
    obtain ⟨key, phrase, core, found, hcore, hdepth, hfound, hmeans, hname, htext⟩ :=
      isMember_of_member helement hfirst
    obtain ⟨after, hafter, hskip⟩ := exists_blank_append afterFirst
    simp only at hmeans hname
    subst hname
    simp only at hloop
    split at hloop
    · cases hloop
    · next behind heq =>
      cases hloop
      rw [htext, hskip, heq]
      refine ⟨[(key, phrase)], _, .last isBlank_nil hcore hafter, by simpa using hdepth, ?_,
        by simp⟩
      exact Phrase.writes?_cons_eq_some_iff.2 ⟨found, value, [], hfound, hmeans, rfl, rfl⟩
    · next behind heq =>
      obtain ⟨gap, hgap, hbehind⟩ := exists_blank_append behind
      split at hloop
      · cases hloop
      · next next hquote =>
        obtain ⟨⟨others, afterOthers⟩, hothers, hresult⟩ := exists_of_bind_eq_ok hloop
        cases hresult
        obtain ⟨parts, spelled, hparts, hdepths, hmeanings, hsplit⟩ := ih hothers
        rw [htext, hskip, heq, hbehind, hquote, hsplit]
        refine ⟨(key, phrase) :: parts, _,
          .comma isBlank_nil hcore hafter (isSeparated_blank_append hgap hparts),
          List.forall_mem_cons.2 ⟨hdepth, hdepths⟩, ?_, by simp⟩
        exact Phrase.writes?_cons_eq_some_iff.2
          ⟨found, value, others, hfound, hmeans, hmeanings, rfl⟩
      · cases hloop
      · cases hloop
    · cases hloop

theorem isValue_of_object {writes : List (String × Json)}
    (h : object element text = .ok (writes, rest)) :
    ∃ parts spelled, IsValue (.object parts) ('\x7b' :: spelled) ∧
      (Phrase.object parts).nesting ≤ depth + 1 ∧
      (Phrase.object parts).value? = some (.object (Members.ofWrites writes)) ∧
      text = spelled ++ rest := by
  obtain ⟨gap, hgap, htext⟩ := exists_blank_append text
  rw [object] at h
  split at h
  · cases h
  · next behind heq =>
    cases h
    rw [htext, heq]
    exact ⟨[], _, .emptyObject hgap, Nat.succ_le_succ (Nat.zero_le _), rfl, by simp⟩
  · next behind heq =>
    obtain ⟨parts, spelled, hparts, hdepths, hmeanings, hsplit⟩ :=
      isSeparated_of_members helement h
    rw [htext, heq, hsplit]
    refine ⟨parts, _, .object (isSeparated_blank_append hgap hparts), ?_, ?_, by simp⟩
    · exact Nat.succ_le_succ ((Phrase.nestingMembers_le_iff parts).2 hdepths)
    · rw [Phrase.value?, hmeanings, Members.ofWrites_eq_kept]
      rfl
  · cases h

end Taken

theorem eq_append_of_word {letters : List Char} :
    ∀ {text rest}, word letters text = .ok ((), rest) → text = letters ++ rest := by
  induction letters with
  | nil =>
    intro text rest h
    cases h
    rfl
  | cons letter letters ih =>
    intro text rest h
    cases text with
    | nil => cases h
    | cons c others =>
      rw [word] at h
      split at h
      · next heq => rw [heq, ih h, List.cons_append]
      · cases h

/-- What is taken for a number is one, and means what is read. -/
theorem isNumber_of_number {n : Number} (h : number text = .ok (n, rest)) :
    ∃ found spelled, IsNumber found spelled ∧ found.number? = some n ∧ text = spelled ++ rest := by
  obtain ⟨⟨found, afterNumber⟩, hliteral, hnumber⟩ := exists_of_bind_eq_ok h
  obtain ⟨spelled, hspelled, hsplit⟩ := isNumber_of_literal hliteral
  simp only at hnumber
  split at hnumber
  · next value heq =>
    cases hnumber
    exact ⟨found, spelled, hspelled, heq, hsplit⟩
  · cases hnumber

/-- What is taken for a value behind its first character is one.  Where there is a reader for what
is in containers, that allows one level less. -/
theorem isValue_of_valueAfter {nested : Option (Reader Json)} {depth : Nat} {first : Char}
    {value : Json}
    (hnested : ∀ element, nested = some element →
      ∃ inner, depth = inner + 1 ∧ TakesPhrases inner element)
    (h : valueAfter nested first text = .ok (value, rest)) :
    ∃ phrase core, IsValue phrase core ∧ phrase.nesting ≤ depth ∧ phrase.value? = some value ∧
      first :: text = core ++ rest := by
  -- The first character tells which kind of value is read.
  unfold valueAfter at h
  split at h
  · obtain ⟨⟨_, afterWord⟩, hword, hresult⟩ := exists_of_bind_eq_ok h
    cases hresult
    exact ⟨.null, _, .null, Nat.zero_le _, rfl, congrArg _ (eq_append_of_word hword)⟩
  · obtain ⟨⟨_, afterWord⟩, hword, hresult⟩ := exists_of_bind_eq_ok h
    cases hresult
    exact ⟨.bool true, _, .true, Nat.zero_le _, rfl, congrArg _ (eq_append_of_word hword)⟩
  · obtain ⟨⟨_, afterWord⟩, hword, hresult⟩ := exists_of_bind_eq_ok h
    cases hresult
    exact ⟨.bool false, _, .false, Nat.zero_le _, rfl, congrArg _ (eq_append_of_word hword)⟩
  · obtain ⟨⟨found, afterString⟩, hstring, hresult⟩ := exists_of_bind_eq_ok h
    cases hresult
    obtain ⟨pieces, spelled, hspelled, hmeans, hsplit⟩ := isString_of_string hstring
    refine ⟨.string pieces, spelled, .string hspelled, Nat.zero_le _, ?_, hsplit⟩
    obtain ⟨characters, hcharacters, rfl⟩ := Option.map_eq_some_iff.1 hmeans
    rw [Phrase.value?, hcharacters]
    rfl
  · split at h
    · cases h
    · next element =>
      obtain ⟨inner, rfl, helement⟩ := hnested element rfl
      obtain ⟨⟨values, afterArray⟩, harray, hresult⟩ := exists_of_bind_eq_ok h
      cases hresult
      obtain ⟨items, spelled, hvalue, hdepth, hmeans, hsplit⟩ := isValue_of_array helement harray
      exact ⟨_, _, hvalue, hdepth, hmeans, congrArg _ hsplit⟩
  · split at h
    · cases h
    · next element =>
      obtain ⟨inner, rfl, helement⟩ := hnested element rfl
      obtain ⟨⟨writes, afterObject⟩, hobject, hresult⟩ := exists_of_bind_eq_ok h
      cases hresult
      obtain ⟨parts, spelled, hvalue, hdepth, hmeans, hsplit⟩ :=
        isValue_of_object helement hobject
      exact ⟨_, _, hvalue, hdepth, hmeans, congrArg _ hsplit⟩
  · split at h
    · obtain ⟨⟨n, afterNumber⟩, hnumber, hresult⟩ := exists_of_bind_eq_ok h
      cases hresult
      obtain ⟨found, spelled, hspelled, hmeans, hsplit⟩ := isNumber_of_number hnumber
      refine ⟨.number found, spelled, .number hspelled, Nat.zero_le _, ?_, hsplit⟩
      rw [Phrase.value?, hmeans]
      rfl
    · cases h

theorem takesPhrases_valueWith {nested : Option (Reader Json)} {depth : Nat}
    (hnested : ∀ element, nested = some element →
      ∃ inner, depth = inner + 1 ∧ TakesPhrases inner element) :
    TakesPhrases depth (valueWith nested) := by
  intro text value rest h
  obtain ⟨before, hbefore, hskip⟩ := exists_blank_append text
  rw [valueWith] at h
  split at h
  · cases h
  · next first others heq =>
    obtain ⟨phrase, core, hcore, hdepth, hmeans, hsplit⟩ := isValue_of_valueAfter hnested h
    exact ⟨phrase, before, core, hbefore, hcore, hdepth, hmeans, by rw [hskip, heq, hsplit]⟩

theorem takesPhrases_value (depth : Nat) : TakesPhrases depth (Reader.value depth) := by
  induction depth with
  | zero =>
    refine takesPhrases_valueWith fun element helement => ?_
    cases helement
  | succ depth ih =>
    refine takesPhrases_valueWith fun element helement => ?_
    cases helement
    exact ⟨depth, rfl, ih⟩

/-! ## What is a value -/

/-- A phrase behind blanks that means something and nests no deeper is taken by the reader, which
gives its value. -/
def GivesPhrases (depth : Nat) (element : Reader Json) : Prop :=
  ∀ {phrase core value}, IsValue phrase core → phrase.nesting ≤ depth →
    phrase.value? = some value → ∀ {before rest}, IsBlank before → Delimited rest →
      element (before ++ (core ++ rest)) = .ok (value, rest)

theorem GivesPhrases.of_core {depth : Nat} {element : Reader Json} (h : GivesPhrases depth element)
    {phrase : Phrase} {core : List Char} {value : Json} (hcore : IsValue phrase core)
    (hdepth : phrase.nesting ≤ depth) (hmeans : phrase.value? = some value)
    (hrest : Delimited rest) : element (core ++ rest) = .ok (value, rest) :=
  h hcore hdepth hmeans isBlank_nil hrest

theorem delimited_blank_cons {c : Char} (h : IsBlank before) (hc : continuesNumber c = false)
    (rest : List Char) : Delimited (before ++ c :: rest) :=
  delimited_blank_append h (delimited_cons rest hc)

theorem skipBlanks_blank_cons {c : Char} (h : IsBlank before) (hc : isBlank c = false)
    (rest : List Char) : skipBlanks (before ++ c :: rest) = c :: rest := by
  rw [skipBlanks_append h, skipBlanks_cons rest hc]

section Rounds

variable {element : Reader Json}

theorem elements_of_close {item : Json} (count : Nat) (h : element text = .ok (item, after))
    (hafter : skipBlanks after = ']' :: rest) :
    elements element (count + 1) text = .ok ([item], rest) := by
  simp only [elements, h, hafter, bind, Except.bind]

theorem elements_of_comma {item : Json} {c : Char} {behind others : List Char} (count : Nat)
    (h : element text = .ok (item, after)) (hafter : skipBlanks after = ',' :: behind)
    (hbehind : skipBlanks behind = c :: others) (hc : c ≠ ']') :
    elements element (count + 1) text =
      (elements element count (c :: others)).map fun read => (item :: read.1, read.2) := by
  simp only [elements, h, hafter, hbehind, bind, Except.bind]
  split
  · next heq => cases heq
  · next heq =>
    cases heq
    exact absurd rfl hc
  · cases elements element count (c :: others) <;> rfl

theorem members_of_close {write : String × Json} (count : Nat)
    (h : member element text = .ok (write, after)) (hafter : skipBlanks after = '\x7d' :: rest) :
    members element (count + 1) text = .ok ([write], rest) := by
  simp only [members, h, hafter, bind, Except.bind]

theorem members_of_comma {write : String × Json} {behind others : List Char} (count : Nat)
    (h : member element text = .ok (write, after)) (hafter : skipBlanks after = ',' :: behind)
    (hbehind : skipBlanks behind = '"' :: others) :
    members element (count + 1) text =
      (members element count others).map fun read => (write :: read.1, read.2) := by
  simp only [members, h, hafter, hbehind, bind, Except.bind]
  cases members element count others <;> rfl

end Rounds

/-- Items begin like a value. -/
theorem skipBlanks_items {items : List Phrase} {spelled : List Char}
    (h : IsSeparated IsValue items spelled) (rest : List Char) :
    ∃ c others, skipBlanks (spelled ++ rest) = c :: others ∧ c ≠ ']' := by
  have hbegins : ∀ {phrase core}, IsValue phrase core → ∀ more,
      ∃ c others, core ++ more = c :: others ∧ c ≠ ']' := by
    intro phrase core hcore more
    obtain ⟨c, others, rfl, hc⟩ := eq_cons_of_isValue hcore
    exact ⟨c, others ++ more, rfl, (beginsValue_iff.1 hc).2⟩
  cases h with
  | last hbefore hcore hafter =>
    rw [List.append_assoc, List.append_assoc, skipBlanks_value hbefore hcore]
    exact hbegins hcore _
  | comma hbefore hcore hafter hitems =>
    rw [List.append_assoc, List.append_assoc, skipBlanks_value hbefore hcore]
    exact hbegins hcore _

/-- Every part takes a character that is not skipped, and the end takes another. -/
theorem length_le_of_isSeparated {α : Type} {rule : α → List Char → Prop}
    (hrule : ∀ {part core}, rule part core → ∃ c others, core = c :: others ∧ isBlank c = false)
    {parts : List α} {spelled : List Char} (h : IsSeparated rule parts spelled) (close : Char)
    (rest : List Char) : parts.length ≤ (skipBlanks (spelled ++ close :: rest)).length := by
  induction h with
  | last hbefore hpart hafter =>
    obtain ⟨c, others, rfl, hc⟩ := hrule hpart
    rw [List.append_assoc, skipBlanks_append hbefore, List.cons_append, List.cons_append,
      skipBlanks_cons _ hc]
    simp
  | @comma part parts before core after spelled hbefore hpart hafter hparts ih =>
    obtain ⟨c, others, rfl, hc⟩ := hrule hpart
    have hskip : (skipBlanks (spelled ++ close :: rest)).length ≤
        (spelled ++ close :: rest).length :=
      List.length_dropWhile_le _ _
    rw [List.append_assoc, skipBlanks_append hbefore, List.cons_append, List.cons_append,
      skipBlanks_cons _ hc]
    simp only [List.length_cons, List.length_append] at hskip ⊢
    omega

section Given

variable {depth : Nat} {element : Reader Json} (helement : GivesPhrases depth element)

include helement

/-- Items are read one in a round, so as many rounds as items are enough. -/
theorem elements_of_isSeparated {items : List Phrase} {spelled : List Char}
    (h : IsSeparated IsValue items spelled) :
    ∀ {values}, (∀ item ∈ items, item.nesting ≤ depth) → Phrase.items? items = some values →
      ∀ (rest : List Char) (count : Nat), items.length ≤ count →
        elements element count (skipBlanks (spelled ++ ']' :: rest)) = .ok (values, rest) := by
  induction h with
  | @last item before core after hbefore hcore hafter =>
    intro values hdepth hmeans rest count hcount
    obtain ⟨first, others, hfirst, hothers, rfl⟩ := Phrase.items?_cons_eq_some_iff.1 hmeans
    cases hothers
    rw [List.length_singleton] at hcount
    obtain ⟨count, rfl⟩ : ∃ left, count = left + 1 := ⟨count - 1, by omega⟩
    have hclose : Delimited (after ++ ']' :: rest) := delimited_blank_cons hafter rfl rest
    have hitem := helement.of_core hcore (hdepth item List.mem_cons_self) hfirst hclose
    rw [List.append_assoc, List.append_assoc, skipBlanks_value hbefore hcore]
    exact elements_of_close count hitem (skipBlanks_blank_cons hafter rfl rest)
  | @comma item items before core after spelled hbefore hcore hafter hitems ih =>
    intro values hdepth hmeans rest count hcount
    obtain ⟨first, others, hfirst, hothers, rfl⟩ := Phrase.items?_cons_eq_some_iff.1 hmeans
    rw [List.length_cons] at hcount
    obtain ⟨count, rfl⟩ : ∃ left, count = left + 1 := ⟨count - 1, by omega⟩
    rw [List.forall_mem_cons] at hdepth
    have hcomma : Delimited (after ++ ',' :: (spelled ++ ']' :: rest)) :=
      delimited_blank_cons hafter rfl _
    have hitem := helement.of_core hcore hdepth.1 hfirst hcomma
    have hread := ih hdepth.2 hothers rest count (by omega)
    -- The item behind the comma is not mistaken for the end.
    obtain ⟨c, more, hbehind, hc⟩ := skipBlanks_items hitems (']' :: rest)
    rw [hbehind] at hread
    rw [List.append_assoc, List.append_assoc, List.append_assoc, List.cons_append,
      skipBlanks_value hbefore hcore,
      elements_of_comma count hitem (skipBlanks_blank_cons hafter rfl _) hbehind hc, hread]
    rfl

theorem array_of_isSeparated {items : List Phrase} {spelled : List Char} {values : List Json}
    (h : IsSeparated IsValue items spelled) (hdepth : ∀ item ∈ items, item.nesting ≤ depth)
    (hmeans : Phrase.items? items = some values) (rest : List Char) :
    array element (spelled ++ ']' :: rest) = .ok (values, rest) := by
  have hlength := length_le_of_isSeparated solid_of_isValue h ']' rest
  have hread := elements_of_isSeparated helement h hdepth hmeans rest _ hlength
  obtain ⟨c, others, hskip, hc⟩ := skipBlanks_items h (']' :: rest)
  rw [hskip] at hread
  rw [array, hskip]
  split
  · next heq => cases heq
  · next heq =>
    cases heq
    exact absurd rfl hc
  · exact hread

/-- A member is read from behind the quote of its key. -/
theorem member_of_isMember {key : List Piece} {phrase : Phrase} {spelled found : List Char}
    {value : Json} (h : IsMember IsValue (key, phrase) spelled) (hdepth : phrase.nesting ≤ depth)
    (hfound : textOf? key = some found) (hmeans : phrase.value? = some value)
    (hrest : Delimited rest) :
    ∃ text, spelled ++ rest = '"' :: text ∧
      member element text = .ok ((String.ofList found, value), rest) := by
  cases h with
  | @mk _ _ front before after back hkey hbefore hafter hvalue =>
    obtain ⟨text, htext, hstring⟩ :=
      string_of_isString hkey hfound (before ++ ':' :: (after ++ (back ++ rest)))
    have hcolon : skipBlanks (before ++ ':' :: (after ++ (back ++ rest))) =
        ':' :: (after ++ (back ++ rest)) := skipBlanks_blank_cons hbefore rfl _
    refine ⟨text, by rw [← htext]; simp, ?_⟩
    simp only [member, hstring, hcolon, helement hvalue hdepth hmeans hafter hrest, bind,
      Except.bind]

/-- Members are read one in a round, from behind the quote of the first. -/
theorem members_of_isSeparated {parts : List (List Piece × Phrase)} {spelled : List Char}
    (h : IsSeparated (IsMember IsValue) parts spelled) :
    ∀ {writes}, (∀ part ∈ parts, part.2.nesting ≤ depth) → Phrase.writes? parts = some writes →
      ∀ rest : List Char, ∃ text, skipBlanks (spelled ++ '\x7d' :: rest) = '"' :: text ∧
        ∀ count, parts.length ≤ count → members element count text = .ok (writes, rest) := by
  induction h with
  | @last part before core after hbefore hcore hafter =>
    intro writes hdepth hmeans rest
    obtain ⟨key, phrase⟩ := part
    obtain ⟨found, value, others, hfound, hvalue, hothers, rfl⟩ :=
      Phrase.writes?_cons_eq_some_iff.1 hmeans
    cases hothers
    have hclose : Delimited (after ++ '\x7d' :: rest) := delimited_blank_cons hafter rfl rest
    obtain ⟨text, htext, hmember⟩ := member_of_isMember helement hcore
      (hdepth _ List.mem_cons_self) hfound hvalue hclose
    refine ⟨text, ?_, fun count hcount => ?_⟩
    · rw [List.append_assoc, List.append_assoc, skipBlanks_append hbefore, htext]
      exact skipBlanks_cons _ rfl
    · rw [List.length_singleton] at hcount
      obtain ⟨count, rfl⟩ : ∃ left, count = left + 1 := ⟨count - 1, by omega⟩
      exact members_of_close count hmember (skipBlanks_blank_cons hafter rfl rest)
  | @comma part parts before core after spelled hbefore hcore hafter hparts ih =>
    intro writes hdepth hmeans rest
    obtain ⟨key, phrase⟩ := part
    obtain ⟨found, value, others, hfound, hvalue, hothers, rfl⟩ :=
      Phrase.writes?_cons_eq_some_iff.1 hmeans
    rw [List.forall_mem_cons] at hdepth
    have hcomma : Delimited (after ++ ',' :: (spelled ++ '\x7d' :: rest)) :=
      delimited_blank_cons hafter rfl _
    obtain ⟨text, htext, hmember⟩ := member_of_isMember helement hcore hdepth.1 hfound hvalue hcomma
    obtain ⟨more, hbehind, hread⟩ := ih hdepth.2 hothers rest
    refine ⟨text, ?_, fun count hcount => ?_⟩
    · rw [List.append_assoc, List.append_assoc, List.append_assoc, List.cons_append,
        skipBlanks_append hbefore, htext]
      exact skipBlanks_cons _ rfl
    · rw [List.length_cons] at hcount
      obtain ⟨count, rfl⟩ : ∃ left, count = left + 1 := ⟨count - 1, by omega⟩
      rw [members_of_comma count hmember (skipBlanks_blank_cons hafter rfl _) hbehind,
        hread count (by omega)]
      rfl

theorem object_of_isSeparated {parts : List (List Piece × Phrase)} {spelled : List Char}
    {writes : List (String × Json)} (h : IsSeparated (IsMember IsValue) parts spelled)
    (hdepth : ∀ part ∈ parts, part.2.nesting ≤ depth)
    (hmeans : Phrase.writes? parts = some writes) (rest : List Char) :
    object element (spelled ++ '\x7d' :: rest) = .ok (writes, rest) := by
  have hlength := length_le_of_isSeparated solid_of_isMember h '\x7d' rest
  obtain ⟨text, hskip, hread⟩ := members_of_isSeparated helement h hdepth hmeans rest
  rw [hskip, List.length_cons] at hlength
  simp only [object, hskip]
  exact hread _ hlength

end Given

/-! ### Values -/

/-- Where a value begins that is not blank, its first character decides. -/
theorem valueWith_of_cons {nested : Option (Reader Json)} {c : Char} (hbefore : IsBlank before)
    (hc : isBlank c = false) (text : List Char) :
    valueWith nested (before ++ c :: text) = valueAfter nested c text := by
  simp only [valueWith, skipBlanks_blank_cons hbefore hc]

/-- A number that is not too great is taken for that, if nothing continues it. -/
theorem number_of_isNumber {found : Literal} {core : List Char} {n : Number}
    (h : IsNumber found core) (hmeans : found.number? = some n) (hrest : Delimited rest) :
    number (core ++ rest) = .ok (n, rest) := by
  simp only [number, literal_of_isNumber h hrest, bind, Except.bind, hmeans]

theorem valueAfter_of_number {nested : Option (Reader Json)} {first : Char} {n : Number}
    (hfirst : first = '-' ∨ first.isDigit = true) (h : number (first :: text) = .ok (n, rest)) :
    valueAfter nested first text = .ok (.number n, rest) := by
  have hne : ∀ d : Char, d ≠ '-' → d.isDigit = false → first ≠ d := by
    rintro d hminus hdigit rfl
    rcases hfirst with hfirst | hfirst
    · exact hminus hfirst
    · rw [hdigit] at hfirst
      cases hfirst
  unfold valueAfter
  split
  case h_7 => simp only [if_pos hfirst, h, bind, Except.bind]
  -- No number begins with one of the other characters.
  all_goals exact absurd rfl (hne _ (by decide) rfl)

/-- Where containers may be nested, there is a reader for what is in them. -/
theorem givesPhrases_valueWith {nested : Option (Reader Json)} {depth : Nat}
    (hnested : ∀ inner, depth = inner + 1 →
      ∃ element, nested = some element ∧ GivesPhrases inner element) :
    GivesPhrases depth (valueWith nested) := by
  intro phrase core value hcore hdepth hmeans before rest hbefore hrest
  -- A container takes one of the levels, and the rest are left to what is in it.
  have hinner : ∀ {most}, most + 1 ≤ depth →
      ∃ inner element, most ≤ inner ∧ nested = some element ∧ GivesPhrases inner element := by
    intro most hmost
    obtain ⟨inner, rfl⟩ : ∃ inner, depth = inner + 1 := ⟨depth - 1, by omega⟩
    obtain ⟨element, hsome, helement⟩ := hnested inner rfl
    exact ⟨inner, element, Nat.le_of_succ_le_succ hmost, hsome, helement⟩
  cases hcore with
  | null =>
    cases hmeans
    rw [List.cons_append, valueWith_of_cons hbefore rfl]
    rfl
  | true =>
    cases hmeans
    rw [List.cons_append, valueWith_of_cons hbefore rfl]
    rfl
  | false =>
    cases hmeans
    rw [List.cons_append, valueWith_of_cons hbefore rfl]
    rfl
  | number hnumber =>
    obtain ⟨n, hn, rfl⟩ := Option.map_eq_some_iff.1 hmeans
    have hread := number_of_isNumber hnumber hn hrest
    obtain ⟨first, others, rfl, hfirst⟩ := eq_cons_of_isNumber hnumber
    have hblank : isBlank first = false := by
      rcases hfirst with rfl | hdigit
      · rfl
      · exact (beginsValue_iff.1 (beginsValue_of_isDigit hdigit)).1
    rw [List.cons_append] at hread ⊢
    rw [valueWith_of_cons hbefore hblank, valueAfter_of_number hfirst hread]
  | string hstring =>
    obtain ⟨found, hfound, rfl⟩ := Option.map_eq_some_iff.1 hmeans
    obtain ⟨text, htext, hread⟩ := string_of_isString hstring hfound rest
    rw [htext, valueWith_of_cons hbefore rfl]
    simp only [valueAfter, hread, bind, Except.bind]
  | @emptyArray blanks hblanks =>
    cases hmeans
    obtain ⟨inner, element, -, rfl, -⟩ := hinner hdepth
    have hclose : skipBlanks (blanks ++ ']' :: rest) = ']' :: rest :=
      skipBlanks_blank_cons hblanks rfl rest
    rw [List.cons_append, List.append_assoc, List.singleton_append, valueWith_of_cons hbefore rfl]
    simp only [valueAfter, array, hclose, bind, Except.bind]
  | @array items spelled hitems =>
    obtain ⟨values, hvalues, rfl⟩ := Option.map_eq_some_iff.1 hmeans
    obtain ⟨inner, element, hle, rfl, helement⟩ := hinner hdepth
    have hread := array_of_isSeparated helement hitems
      ((Phrase.nestingItems_le_iff items).1 hle) hvalues rest
    rw [List.cons_append, List.append_assoc, List.singleton_append, valueWith_of_cons hbefore rfl]
    simp only [valueAfter, hread, bind, Except.bind]
  | @emptyObject blanks hblanks =>
    cases hmeans
    obtain ⟨inner, element, -, rfl, -⟩ := hinner hdepth
    have hclose : skipBlanks (blanks ++ '\x7d' :: rest) = '\x7d' :: rest :=
      skipBlanks_blank_cons hblanks rfl rest
    rw [List.cons_append, List.append_assoc, List.singleton_append, valueWith_of_cons hbefore rfl]
    simp only [valueAfter, object, hclose, bind, Except.bind]
    rfl
  | @object parts spelled hparts =>
    obtain ⟨writes, hwrites, rfl⟩ := Option.map_eq_some_iff.1 hmeans
    obtain ⟨inner, element, hle, rfl, helement⟩ := hinner hdepth
    have hread := object_of_isSeparated helement hparts
      ((Phrase.nestingMembers_le_iff parts).1 hle) hwrites rest
    rw [List.cons_append, List.append_assoc, List.singleton_append, valueWith_of_cons hbefore rfl]
    simp only [valueAfter, hread, bind, Except.bind, Members.ofWrites_eq_kept]

theorem givesPhrases_value (depth : Nat) : GivesPhrases depth (Reader.value depth) := by
  induction depth with
  | zero =>
    refine givesPhrases_valueWith fun inner hinner => ?_
    cases hinner
  | succ depth ih =>
    refine givesPhrases_valueWith fun inner hinner => ?_
    cases hinner
    exact ⟨Reader.value depth, rfl, ih⟩

/-! ## Documents -/

/-- A document that means something and nests no deeper is what is read. -/
theorem document_eq_ok_iff {depth : Nat} {value : Json} :
    document depth text = .ok value ↔
      ∃ phrase, IsDocument phrase text ∧ phrase.nesting ≤ depth ∧ phrase.value? = some value := by
  constructor
  · intro h
    obtain ⟨⟨found, behind⟩, hvalue, hend⟩ := exists_of_bind_eq_ok h
    obtain ⟨phrase, before, core, hbefore, hcore, hdepth, hmeans, rfl⟩ :=
      takesPhrases_value depth hvalue
    obtain ⟨after, hafter, hskip⟩ := exists_blank_append behind
    simp only at hend
    split at hend
    · next heq =>
      cases hend
      rw [heq, List.append_nil] at hskip
      rw [hskip]
      exact ⟨phrase, .mk hbefore hcore hafter, hdepth, hmeans⟩
    · cases hend
  · rintro ⟨phrase, hdocument, hdepth, hmeans⟩
    cases hdocument with
    | @mk before core after hbefore hcore hafter =>
      have hend := delimited_blank_append hafter delimited_nil
      have hskip := skipBlanks_append hafter []
      rw [List.append_nil] at hend hskip
      have hvalue := givesPhrases_value depth hcore hdepth hmeans hbefore hend
      have hnil : skipBlanks [] = [] := rfl
      simp only [document, hvalue, hskip, hnil, bind, Except.bind]

end Reader

/-- **Documents are what is read.**  A text is read by a reader that allows some depth if it is a
document that means something and nests no deeper, and the value is what it means. -/
theorem readNested_eq_ok_iff {depth : Nat} {text : String} {value : Json} :
    readNested depth text = .ok value ↔
      ∃ phrase, IsDocument phrase text.toList ∧ phrase.nesting ≤ depth ∧
        phrase.value? = some value := by
  rw [← Reader.document_eq_ok_iff, readNested]
  cases Reader.document depth text.toList with
  | ok found => rw [Except.ok.injEq, Except.ok.injEq]
  | error reached => simp

/-- The value of a text fits the depth that the text may nest. -/
theorem fits_of_readNested {depth : Nat} {text : String} {value : Json}
    (h : readNested depth text = .ok value) : Fits depth value := by
  obtain ⟨phrase, -, hdepth, hmeans⟩ := readNested_eq_ok_iff.1 h
  exact Phrase.fits_of_value? hmeans hdepth

end JobImages.Json
