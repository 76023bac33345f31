import JobImages.Proofs.Json.Grammar
import JobImages.Proofs.Json.WellFormed

/-!
# What is meant by a document

A phrase means a value if no escape in it gives half of a character only and no number in it lies
beyond the doubles.  That is a question apart from the grammar, and so is how deep containers are
nested in one another.

Of the members of one key the last is meant, in the place of the first.  An object that is written
member by member comes to the same.

## Main definitions

* `Members.kept` — of the members of one key the last, in the place of the first;
* `Grammar.textOf?`, `Phrase.value?` — what a string and a phrase mean, if they mean something;
* `Grammar.Paired`, `Phrase.Meaningful` — no half of a character stands alone, and no number is too
  great;
* `Phrase.nesting` — how many containers lie in one another.

## Main results

* `Members.ofWrites_eq_kept` — writing members one after the other leaves those that are kept;
* `Grammar.exists_textOf?_iff`, `Phrase.exists_value?_iff` — what means something;
* `Phrase.fits_of_value?` — what is meant nests no deeper than the phrase.
-/

namespace JobImages.Json

/-! ## Members that are kept -/

namespace Members

/-- Of the members of one key the last, in the place of the first. -/
def kept (writes : List (String × Json)) : Members :=
  (keys writes).eraseDups.filterMap fun key =>
    (get? writes.reverse key).map fun value => (key, value)

theorem keys_ofWrites (writes : List (String × Json)) :
    keys (ofWrites writes) = (keys writes).eraseDups := by
  induction writes using List.reverseRecOn with
  | nil => rfl
  | append_singleton writes write ih =>
    have hkeys : keys (writes ++ [write]) = keys writes ++ [write.1] := List.map_append
    rw [ofWrites_concat, hkeys, List.eraseDups_append]
    -- The last write adds its key at the end, unless the key is there already.
    by_cases hkey : write.1 ∈ keys writes
    · have hnone : [write.1].removeAll (keys writes) = [] := by simp [List.removeAll, hkey]
      have hmem : write.1 ∈ keys (ofWrites writes) := by rwa [ih, List.mem_eraseDups]
      rw [keys_put_of_mem _ hmem, ih, hnone, List.eraseDups_nil, List.append_nil]
    · have hnew : [write.1].removeAll (keys writes) = [write.1] := by simp [List.removeAll, hkey]
      have hnot : write.1 ∉ keys (ofWrites writes) := by rwa [ih, List.mem_eraseDups]
      rw [keys_put_of_not_mem _ hnot, ih, hnew]
      rfl

theorem get?_ofWrites (writes : List (String × Json)) (key : String) :
    get? (ofWrites writes) key = get? writes.reverse key := by
  induction writes using List.reverseRecOn with
  | nil => rfl
  | append_singleton writes write ih =>
    rw [ofWrites_concat, List.reverse_append, List.reverse_singleton, List.singleton_append,
      get?_cons]
    by_cases hkey : write.1 = key
    · rw [if_pos hkey, ← hkey, get?_put_self]
    · rw [if_neg hkey, get?_put_of_ne _ _ (Ne.symm hkey), ih]

theorem get?_of_mem {members : Members} (hkeys : (keys members).Nodup) {member : String × Json}
    (h : member ∈ members) : get? members member.1 = some member.2 := by
  induction members with
  | nil => cases h
  | cons first rest ih =>
    obtain ⟨hfirst, hrest⟩ := List.nodup_cons.1 hkeys
    rw [get?_cons]
    rcases List.mem_cons.1 h with rfl | hmem
    · rw [if_pos rfl]
    · have hne : first.1 ≠ member.1 := fun heq => hfirst (heq ▸ List.mem_map_of_mem hmem)
      rw [if_neg hne, ih hrest hmem]

/-- Members are those found under their keys, wherever they are looked for. -/
theorem filterMap_keys {find : String → Option Json} {members : Members}
    (h : ∀ member ∈ members, find member.1 = some member.2) :
    ((keys members).filterMap fun key => (find key).map fun value => (key, value)) = members := by
  induction members with
  | nil => rfl
  | cons first rest ih =>
    rw [List.forall_mem_cons] at h
    rw [keys, List.map_cons, List.filterMap_cons, h.1]
    exact congrArg (first :: ·) (ih h.2)

/-- Writing members one after the other leaves those that are kept. -/
theorem ofWrites_eq_kept (writes : List (String × Json)) : ofWrites writes = kept writes := by
  rw [kept, ← keys_ofWrites]
  refine (filterMap_keys fun member hmember => ?_).symm
  rw [← get?_ofWrites, get?_of_mem (nodup_keys_ofWrites writes) hmember]

end Members

namespace Grammar

/-! ## What strings mean -/

/-- The half of a character beyond the first plane that comes first. -/
def IsLeading (code : Nat) : Prop :=
  0xd800 ≤ code ∧ code < 0xdc00

/-- The half that comes second. -/
def IsTrailing (code : Nat) : Prop :=
  0xdc00 ≤ code ∧ code < 0xe000

instance (code : Nat) : Decidable (IsLeading code) :=
  inferInstanceAs (Decidable (_ ∧ _))

instance (code : Nat) : Decidable (IsTrailing code) :=
  inferInstanceAs (Decidable (_ ∧ _))

/-- The character of two halves. -/
def pairChar (leading trailing : Nat) : Char :=
  Char.ofNat (0x10000 + 0x400 * (leading - 0xd800) + (trailing - 0xdc00))

/-- The characters that the parts of a string stand for, unless a half stands alone. -/
def textOf? : List Piece → Option (List Char)
  | [] => some []
  | .char c :: rest => (textOf? rest).map (c :: ·)
  | .unit code :: rest =>
    if IsLeading code then
      match rest with
      | .unit next :: others =>
        if IsTrailing next then (textOf? others).map (pairChar code next :: ·) else none
      | _ => none
    else if IsTrailing code then none
    else (textOf? rest).map (Char.ofNat code :: ·)

/-- No half of a character stands without the other. -/
inductive Paired : List Piece → Prop where
  | nil : Paired []
  | char {rest : List Piece} (c : Char) (hrest : Paired rest) : Paired (.char c :: rest)
  | unit {code : Nat} {rest : List Piece} (hleading : ¬IsLeading code)
      (htrailing : ¬IsTrailing code) (hrest : Paired rest) : Paired (.unit code :: rest)
  | pair {leading trailing : Nat} {rest : List Piece} (hleading : IsLeading leading)
      (htrailing : IsTrailing trailing) (hrest : Paired rest) :
      Paired (.unit leading :: .unit trailing :: rest)

section Text

variable {code : Nat}

theorem textOf?_unit (rest : List Piece) (hleading : ¬IsLeading code)
    (htrailing : ¬IsTrailing code) :
    textOf? (.unit code :: rest) = (textOf? rest).map (Char.ofNat code :: ·) := by
  rw [textOf?.eq_def]
  simp only [if_neg hleading, if_neg htrailing]

theorem textOf?_pair {leading trailing : Nat} (rest : List Piece) (hleading : IsLeading leading)
    (htrailing : IsTrailing trailing) :
    textOf? (.unit leading :: .unit trailing :: rest) =
      (textOf? rest).map (pairChar leading trailing :: ·) := by
  rw [textOf?, if_pos hleading]
  exact if_pos htrailing

end Text

/-- A string has a text if its halves are paired. -/
theorem exists_textOf?_iff (pieces : List Piece) :
    (∃ text, textOf? pieces = some text) ↔ Paired pieces := by
  constructor
  · rintro ⟨text, htext⟩
    fun_induction textOf? pieces generalizing text with
    | case1 => exact .nil
    | case2 c rest ih =>
      obtain ⟨others, hothers, -⟩ := Option.map_eq_some_iff.1 htext
      exact .char c (ih others hothers)
    | case3 leading hleading trailing rest htrailing ih =>
      obtain ⟨others, hothers, -⟩ := Option.map_eq_some_iff.1 htext
      exact .pair hleading htrailing (ih others hothers)
    | case4 => cases htext
    | case5 => cases htext
    | case6 => cases htext
    | case7 code rest hleading htrailing ih =>
      obtain ⟨others, hothers, -⟩ := Option.map_eq_some_iff.1 htext
      exact .unit hleading htrailing (ih others hothers)
  · intro h
    induction h with
    | nil => exact ⟨[], rfl⟩
    | char c hrest ih =>
      obtain ⟨others, hothers⟩ := ih
      exact ⟨c :: others, by rw [textOf?, hothers]; rfl⟩
    | unit hleading htrailing hrest ih =>
      obtain ⟨others, hothers⟩ := ih
      exact ⟨_, by rw [textOf?_unit _ hleading htrailing, hothers]; rfl⟩
    | pair hleading htrailing hrest ih =>
      obtain ⟨others, hothers⟩ := ih
      exact ⟨_, by rw [textOf?_pair _ hleading htrailing, hothers]; rfl⟩

/-! ## What phrases mean -/

namespace Phrase

mutual

/-- How many containers lie in one another. -/
def nesting : Phrase → Nat
  | .array items => nestingItems items + 1
  | .object members => nestingMembers members + 1
  | _ => 0

/-- How many containers lie in one another in some phrases. -/
def nestingItems : List Phrase → Nat
  | [] => 0
  | item :: rest => max (nesting item) (nestingItems rest)

/-- How many containers lie in one another in the values of some members. -/
def nestingMembers : List (List Piece × Phrase) → Nat
  | [] => 0
  | (_, phrase) :: rest => max (nesting phrase) (nestingMembers rest)

end

mutual

/-- The value that a phrase means, if it means one. -/
def value? : Phrase → Option Json
  | .null => some .null
  | .bool value => some (.bool value)
  | .number literal => literal.number?.map .number
  | .string pieces => (textOf? pieces).map fun text => .string (String.ofList text)
  | .array items => (items? items).map .array
  | .object members => (writes? members).map fun writes => .object (Members.kept writes)

/-- The values of some phrases, if all mean something. -/
def items? : List Phrase → Option (List Json)
  | [] => some []
  | item :: rest => do
    let first ← value? item
    let others ← items? rest
    some (first :: others)

/-- The keys and values of some members, if all mean something. -/
def writes? : List (List Piece × Phrase) → Option (List (String × Json))
  | [] => some []
  | (pieces, phrase) :: rest => do
    let key ← textOf? pieces
    let value ← value? phrase
    let others ← writes? rest
    some ((String.ofList key, value) :: others)

end

/-- No half of a character stands alone, in a string or a key, and no number is too great. -/
inductive Meaningful : Phrase → Prop where
  | null : Meaningful .null
  | bool (value : Bool) : Meaningful (.bool value)
  | number {literal : Literal} (h : literal.number? ≠ none) : Meaningful (.number literal)
  | string {pieces : List Piece} (h : Paired pieces) : Meaningful (.string pieces)
  | array {items : List Phrase} (h : ∀ item ∈ items, Meaningful item) : Meaningful (.array items)
  | object {members : List (List Piece × Phrase)} (hkeys : ∀ member ∈ members, Paired member.1)
      (hvalues : ∀ member ∈ members, Meaningful member.2) : Meaningful (.object members)

/-- Phrases nest no more than each of them does. -/
theorem nestingItems_le_iff {depth : Nat} (items : List Phrase) :
    nestingItems items ≤ depth ↔ ∀ item ∈ items, item.nesting ≤ depth := by
  induction items with
  | nil => simp [nestingItems]
  | cons item rest ih => rw [nestingItems, Nat.max_le, ih, List.forall_mem_cons]

theorem nestingMembers_le_iff {depth : Nat} (members : List (List Piece × Phrase)) :
    nestingMembers members ≤ depth ↔ ∀ member ∈ members, member.2.nesting ≤ depth := by
  induction members with
  | nil => simp [nestingMembers]
  | cons member rest ih => rw [nestingMembers, Nat.max_le, ih, List.forall_mem_cons]

theorem items?_cons_eq_some_iff {item : Phrase} {rest : List Phrase} {values : List Json} :
    items? (item :: rest) = some values ↔
      ∃ first others, item.value? = some first ∧ items? rest = some others ∧
        values = first :: others := by
  simp only [items?, bind, Option.bind_eq_some_iff, Option.some_inj]
  constructor
  · rintro ⟨first, hfirst, others, hothers, rfl⟩
    exact ⟨first, others, hfirst, hothers, rfl⟩
  · rintro ⟨first, others, hfirst, hothers, rfl⟩
    exact ⟨first, hfirst, others, hothers, rfl⟩

theorem writes?_cons_eq_some_iff {pieces : List Piece} {phrase : Phrase}
    {rest : List (List Piece × Phrase)} {writes : List (String × Json)} :
    writes? ((pieces, phrase) :: rest) = some writes ↔
      ∃ key value others, textOf? pieces = some key ∧ phrase.value? = some value ∧
        writes? rest = some others ∧ writes = (String.ofList key, value) :: others := by
  simp only [writes?, bind, Option.bind_eq_some_iff, Option.some_inj]
  constructor
  · rintro ⟨key, hkey, value, hvalue, others, hothers, rfl⟩
    exact ⟨key, value, others, hkey, hvalue, hothers, rfl⟩
  · rintro ⟨key, value, others, hkey, hvalue, hothers, rfl⟩
    exact ⟨key, hkey, value, hvalue, others, hothers, rfl⟩

theorem exists_map_eq_some_iff {α β : Type} {f : α → β} {found : Option α} :
    (∃ result, found.map f = some result) ↔ ∃ value, found = some value := by
  cases found <;> simp

mutual

-- A container means something if what is in it does, so phrases, lists of phrases and lists of
-- members are taken together.

/-- A phrase means something if no half of a character stands alone and no number is too great. -/
theorem exists_value?_iff :
    ∀ phrase : Phrase, (∃ value, phrase.value? = some value) ↔ Meaningful phrase
  | .null => ⟨fun _ => .null, fun _ => ⟨_, rfl⟩⟩
  | .bool value => ⟨fun _ => .bool value, fun _ => ⟨_, rfl⟩⟩
  | .number literal => by
    rw [value?, exists_map_eq_some_iff, ← Option.ne_none_iff_exists']
    refine ⟨.number, fun h => ?_⟩
    cases h with
    | number hnumber => exact hnumber
  | .string pieces => by
    rw [value?, exists_map_eq_some_iff, exists_textOf?_iff]
    refine ⟨.string, fun h => ?_⟩
    cases h with
    | string hpaired => exact hpaired
  | .array items => by
    rw [value?, exists_map_eq_some_iff, exists_items?_iff items]
    refine ⟨.array, fun h => ?_⟩
    cases h with
    | array hitems => exact hitems
  | .object members => by
    rw [value?, exists_map_eq_some_iff, exists_writes?_iff members]
    refine ⟨fun h => .object h.1 h.2, fun h => ?_⟩
    cases h with
    | object hkeys hvalues => exact ⟨hkeys, hvalues⟩

theorem exists_items?_iff :
    ∀ items : List Phrase,
      (∃ values, items? items = some values) ↔ ∀ item ∈ items, Meaningful item
  | [] => ⟨fun _ => List.forall_mem_nil _, fun _ => ⟨[], rfl⟩⟩
  | item :: rest => by
    rw [List.forall_mem_cons, ← exists_value?_iff item, ← exists_items?_iff rest]
    simp only [items?_cons_eq_some_iff]
    constructor
    · rintro ⟨_, first, others, hfirst, hothers, -⟩
      exact ⟨⟨first, hfirst⟩, others, hothers⟩
    · rintro ⟨⟨first, hfirst⟩, others, hothers⟩
      exact ⟨_, first, others, hfirst, hothers, rfl⟩

theorem exists_writes?_iff :
    ∀ members : List (List Piece × Phrase),
      (∃ writes, writes? members = some writes) ↔
        (∀ member ∈ members, Paired member.1) ∧ ∀ member ∈ members, Meaningful member.2
  | [] => ⟨fun _ => ⟨List.forall_mem_nil _, List.forall_mem_nil _⟩, fun _ => ⟨[], rfl⟩⟩
  | (pieces, phrase) :: rest => by
    have hrest := exists_writes?_iff rest
    rw [List.forall_mem_cons, List.forall_mem_cons, ← exists_value?_iff phrase,
      ← exists_textOf?_iff pieces]
    simp only [writes?_cons_eq_some_iff]
    constructor
    · rintro ⟨_, key, value, others, hkey, hvalue, hothers, -⟩
      obtain ⟨hkeys, hvalues⟩ := hrest.1 ⟨others, hothers⟩
      exact ⟨⟨⟨key, hkey⟩, hkeys⟩, ⟨value, hvalue⟩, hvalues⟩
    · rintro ⟨⟨⟨key, hkey⟩, hkeys⟩, ⟨value, hvalue⟩, hvalues⟩
      obtain ⟨others, hothers⟩ := hrest.2 ⟨hkeys, hvalues⟩
      exact ⟨_, key, value, others, hkey, hvalue, hothers, rfl⟩

end

/-! ## What is meant fits its depth -/

mutual

/-- A value nests no deeper than the phrase that means it, and its objects have distinct keys. -/
theorem fits_of_value? : ∀ {phrase : Phrase} {depth : Nat} {value : Json},
    phrase.value? = some value → phrase.nesting ≤ depth → Fits depth value
  | .null, depth, _, hmeans, _ => by
    cases hmeans
    exact .null depth
  | .bool value, depth, _, hmeans, _ => by
    cases hmeans
    exact .bool depth value
  | .number literal, depth, _, hmeans, _ => by
    obtain ⟨n, -, rfl⟩ := Option.map_eq_some_iff.1 hmeans
    exact .number depth n
  | .string pieces, depth, _, hmeans, _ => by
    obtain ⟨text, -, rfl⟩ := Option.map_eq_some_iff.1 hmeans
    exact .string depth _
  | .array items, 0, _, _, hdepth => absurd hdepth (Nat.not_succ_le_zero _)
  | .array items, depth + 1, _, hmeans, hdepth => by
    obtain ⟨values, hvalues, rfl⟩ := Option.map_eq_some_iff.1 hmeans
    exact .array (fits_of_items? hvalues (Nat.le_of_succ_le_succ hdepth))
  | .object members, 0, _, _, hdepth => absurd hdepth (Nat.not_succ_le_zero _)
  | .object members, depth + 1, _, hmeans, hdepth => by
    obtain ⟨writes, hwrites, rfl⟩ := Option.map_eq_some_iff.1 hmeans
    have hfits := fits_of_writes? hwrites (Nat.le_of_succ_le_succ hdepth)
    -- What is kept is what writing leaves, and that has every key once.
    rw [← Members.ofWrites_eq_kept]
    exact .object (Members.nodup_keys_ofWrites writes) (Members.forall_ofWrites hfits)

theorem fits_of_items? : ∀ {items : List Phrase} {depth : Nat} {values : List Json},
    items? items = some values → nestingItems items ≤ depth → ∀ value ∈ values, Fits depth value
  | [], _, _, hmeans, _ => by
    cases hmeans
    exact List.forall_mem_nil _
  | item :: rest, depth, _, hmeans, hdepth => by
    obtain ⟨first, others, hfirst, hothers, rfl⟩ := items?_cons_eq_some_iff.1 hmeans
    rw [nestingItems, Nat.max_le] at hdepth
    exact List.forall_mem_cons.2 ⟨fits_of_value? hfirst hdepth.1, fits_of_items? hothers hdepth.2⟩

theorem fits_of_writes? : ∀ {members : List (List Piece × Phrase)} {depth : Nat}
    {writes : List (String × Json)}, writes? members = some writes →
      nestingMembers members ≤ depth → ∀ write ∈ writes, Fits depth write.2
  | [], _, _, hmeans, _ => by
    cases hmeans
    exact List.forall_mem_nil _
  | (pieces, phrase) :: rest, depth, _, hmeans, hdepth => by
    obtain ⟨key, value, others, -, hvalue, hothers, rfl⟩ := writes?_cons_eq_some_iff.1 hmeans
    rw [nestingMembers, Nat.max_le] at hdepth
    exact List.forall_mem_cons.2
      ⟨fits_of_value? hvalue hdepth.1, fits_of_writes? hothers hdepth.2⟩

end

end Phrase

end Grammar

end JobImages.Json
