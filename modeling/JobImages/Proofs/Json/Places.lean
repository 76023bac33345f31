import JobImages.Proofs.Json.Spelling

/-!
# Places in documents

A place in a document is named by the steps that lead there: keys of objects and indices of arrays.
Where several members have one key, the step leads to the last of them, since that is the one that
is kept.  With this reading and writing commute with going to a place: what a document means at a
place is what it says there, and what is written there is what is written for the value at the
place.

## Main definitions

* `Json.Selector` — a step to a part of a container;
* `Json.at?`, `Phrase.at?` — what stands at a place of a value, and of a document.

## Main results

* `Phrase.map_value?_at?` — what a document means at a place;
* `Json.at?_phraseOf` — what is written at a place.
-/

namespace JobImages.Json

open Grammar

/-- A step from a container to a part of it. -/
inductive Selector where
  /-- To the member of a key. -/
  | member (key : String)
  /-- To the element at an index. -/
  | element (index : Nat)

/-- The value at a place. -/
def at? (value : Json) : List Selector → Option Json
  | [] => some value
  | .member key :: rest =>
    match value with
    | .object members => (Members.get? members key).bind fun found => found.at? rest
    | _ => none
  | .element index :: rest =>
    match value with
    | .array items => items[index]?.bind fun found => found.at? rest
    | _ => none

namespace Grammar.Phrase

/-- Of the members of a key the last. -/
def member? (key : String) (parts : List (List Piece × Phrase)) : Option Phrase :=
  (parts.reverse.find? fun part => textOf? part.1 == some key.toList).map Prod.snd

/-- The phrase at a place of a document. -/
def at? (phrase : Phrase) : List Selector → Option Phrase
  | [] => some phrase
  | .member key :: rest =>
    match phrase with
    | .object parts => (member? key parts).bind fun found => found.at? rest
    | _ => none
  | .element index :: rest =>
    match phrase with
    | .array items => items[index]?.bind fun found => found.at? rest
    | _ => none

end Grammar.Phrase

/-! ## What is meant at a place -/

section Meaning

variable {key : String} {parts : List (List Piece × Phrase)}

theorem member?_cons (part : List Piece × Phrase) (rest : List (List Piece × Phrase)) :
    Phrase.member? key (part :: rest) =
      (Phrase.member? key rest).or
        (if textOf? part.1 = some key.toList then some part.2 else none) := by
  unfold Phrase.member?
  rw [List.reverse_cons, List.find?_append, Option.map_or]
  congr 1
  by_cases h : textOf? part.1 = some key.toList <;> simp [h]

theorem get?_reverse_cons (write : String × Json) (rest : List (String × Json)) :
    Members.get? (write :: rest).reverse key =
      (Members.get? rest.reverse key).or (if write.1 = key then some write.2 else none) := by
  unfold Members.get?
  rw [List.reverse_cons, List.lookup_append]
  congr 1
  exact Members.get?_cons key write.1 write.2 []

/-- The member of a key that is kept is the last. -/
theorem map_value?_member? {writes : List (String × Json)}
    (h : Phrase.writes? parts = some writes) :
    (Phrase.member? key parts).map Phrase.value? =
      (Members.get? (Members.kept writes) key).map some := by
  rw [← Members.ofWrites_eq_kept, Members.get?_ofWrites]
  induction parts generalizing writes with
  | nil =>
    cases h
    rfl
  | cons part rest ih =>
    obtain ⟨text, value, others, htext, hvalue, hothers, rfl⟩ :=
      Phrase.writes?_cons_eq_some_iff.1 h
    have hkey : textOf? part.1 = some key.toList ↔ String.ofList text = key := by
      rw [htext, Option.some_inj, ← String.toList_inj, String.toList_ofList]
    rw [member?_cons, get?_reverse_cons, Option.map_or, Option.map_or, ih hothers]
    congr 1
    by_cases hsame : String.ofList text = key
    · rw [if_pos (hkey.2 hsame), if_pos hsame, Option.map_some, Option.map_some, hvalue]
    · rw [if_neg fun hpart => hsame (hkey.1 hpart), if_neg hsame]
      rfl

theorem map_value?_getElem? {items : List Phrase} {values : List Json}
    (h : Phrase.items? items = some values) (index : Nat) :
    items[index]?.map Phrase.value? = values[index]?.map some := by
  induction items generalizing values index with
  | nil =>
    cases h
    rfl
  | cons item rest ih =>
    obtain ⟨first, others, hfirst, hothers, rfl⟩ := Phrase.items?_cons_eq_some_iff.1 h
    cases index with
    | zero => exact congrArg some hfirst
    | succ index => exact ih hothers index

/-- What stands at a place of a document means what stands there in the value, and nothing stands
at one of them alone. -/
theorem Grammar.Phrase.map_value?_at? {phrase : Phrase} {value : Json}
    (h : phrase.value? = some value) (place : List Selector) :
    (phrase.at? place).map Phrase.value? = (value.at? place).map some := by
  induction place generalizing phrase value with
  | nil => exact congrArg some h
  | cons selector rest ih =>
    -- A part of the container means the part of its value, and from there the way goes on.
    have hpart : ∀ {part : Option Phrase} {found : Option Json},
        part.map Phrase.value? = found.map some →
          (part.bind fun part => part.at? rest).map Phrase.value? =
            (found.bind fun found => found.at? rest).map some := by
      intro part found hsame
      cases part with
      | none =>
        cases found with
        | none => rfl
        | some found => cases hsame
      | some part =>
        cases found with
        | none => cases hsame
        | some found => exact ih (Option.some.inj hsame)
    cases selector with
    | member key =>
      cases phrase with
      | object parts =>
        obtain ⟨writes, hwrites, rfl⟩ := Option.map_eq_some_iff.1 h
        exact hpart (map_value?_member? hwrites)
      | null => cases h; rfl
      | bool => cases h; rfl
      | number literal => obtain ⟨n, -, rfl⟩ := Option.map_eq_some_iff.1 h; rfl
      | string pieces => obtain ⟨text, -, rfl⟩ := Option.map_eq_some_iff.1 h; rfl
      | array items => obtain ⟨values, -, rfl⟩ := Option.map_eq_some_iff.1 h; rfl
    | element index =>
      cases phrase with
      | array items =>
        obtain ⟨values, hvalues, rfl⟩ := Option.map_eq_some_iff.1 h
        exact hpart (map_value?_getElem? hvalues index)
      | null => cases h; rfl
      | bool => cases h; rfl
      | number literal => obtain ⟨n, -, rfl⟩ := Option.map_eq_some_iff.1 h; rfl
      | string pieces => obtain ⟨text, -, rfl⟩ := Option.map_eq_some_iff.1 h; rfl
      | object parts => obtain ⟨writes, -, rfl⟩ := Option.map_eq_some_iff.1 h; rfl

end Meaning

/-! ## What is written at a place -/

theorem member?_partsOf (key : String) (members : Members) :
    Phrase.member? key (partsOf members) =
      (Members.get? members.reverse key).map phraseOf := by
  induction members with
  | nil => rfl
  | cons member rest ih =>
    have hkey : textOf? (pieces member.1) = some key.toList ↔ member.1 = key := by
      rw [textOf?_pieces, Option.some_inj, String.toList_inj]
    rw [partsOf, member?_cons, get?_reverse_cons, ih, Option.map_or]
    congr 1
    by_cases hsame : member.1 = key
    · rw [if_pos (hkey.2 hsame), if_pos hsame, Option.map_some]
    · rw [if_neg fun hpart => hsame (hkey.1 hpart), if_neg hsame]
      rfl

/-- Where no key is there twice, the last member of a key is the first. -/
theorem get?_reverse {members : Members} (h : (Members.keys members).Nodup) (key : String) :
    Members.get? members.reverse key = Members.get? members key := by
  rw [← Members.get?_ofWrites, Members.ofWrites_of_nodup h]

/-- What is written for a value has, at a place, what is written for the value that stands there. -/
theorem at?_phraseOf {depth : Nat} {value : Json} (h : Fits depth value) (place : List Selector) :
    (phraseOf value).at? place = (value.at? place).map phraseOf := by
  induction place generalizing depth value with
  | nil => rfl
  | cons selector rest ih =>
    cases h with
    | null => cases selector <;> rfl
    | bool => cases selector <;> rfl
    | number => cases selector <;> rfl
    | string => cases selector <;> rfl
    | @array depth items hitems =>
      cases selector with
      | member key => rfl
      | element index =>
        show ((phrasesOf items)[index]?.bind fun found => found.at? rest) =
          (items[index]?.bind fun found => found.at? rest).map phraseOf
        rw [phrasesOf_eq_map, List.getElem?_map]
        cases hitem : items[index]? with
        | none => rfl
        | some item => exact ih (hitems item (List.mem_of_getElem? hitem))
    | @object depth members hkeys hmembers =>
      cases selector with
      | element index => rfl
      | member key =>
        show ((Phrase.member? key (partsOf members)).bind fun found => found.at? rest) =
          ((Members.get? members key).bind fun found => found.at? rest).map phraseOf
        rw [member?_partsOf, get?_reverse hkeys]
        cases hmember : Members.get? members key with
        | none => rfl
        | some found =>
          obtain ⟨before, after, hsplit, -⟩ := List.lookup_eq_some_iff.1 hmember
          exact ih (hmembers (key, found) (by simp [hsplit]))

end JobImages.Json
