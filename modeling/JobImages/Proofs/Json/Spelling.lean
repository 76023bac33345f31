import JobImages.Proofs.Json.NumberLiteral
import JobImages.Proofs.Json.StringLiteral

/-!
# What is written for a value

The compact text of a value is spelled by the rules of the grammar, whatever the value is, and the
phrase that it spells is known: a literal for each number, the parts of each string, and the
elements and the members in their order.

## Main definitions

* `Json.phraseOf` — the phrase that is written for a value.

## Main results

* `Json.isValue_write`, `Json.isDocument_print` — what is written spells that phrase.
-/

namespace JobImages.Json

open Grammar

mutual

/-- The phrase that is written for a value. -/
def phraseOf : Json → Phrase
  | .null => .null
  | .bool value => .bool value
  | .number n => .number (Literal.ofNumber n)
  | .string text => .string (pieces text)
  | .array items => .array (phrasesOf items)
  | .object members => .object (partsOf members)

/-- The phrases that are written for some values. -/
def phrasesOf : List Json → List Phrase
  | [] => []
  | item :: rest => phraseOf item :: phrasesOf rest

/-- The keys and phrases that are written for some members. -/
def partsOf : List (String × Json) → List (List Piece × Phrase)
  | [] => []
  | (key, value) :: rest => (pieces key, phraseOf value) :: partsOf rest

end

theorem phrasesOf_eq_map (items : List Json) : phrasesOf items = items.map phraseOf := by
  induction items with
  | nil => rfl
  | cons item rest ih => rw [phrasesOf, ih, List.map_cons]

theorem partsOf_eq_map (members : Members) :
    partsOf members = members.map fun member => (pieces member.1, phraseOf member.2) := by
  induction members with
  | nil => rfl
  | cons member rest ih => rw [partsOf, ih, List.map_cons]

/-! ## What is written spells it -/

section Lists

variable {α : Type} {rule : α → List Char → Prop} {part : α} {parts : List α}
  {core others : List Char}

theorem isBlank_nil : IsBlank [] :=
  List.forall_mem_nil _

theorem Grammar.IsSeparated.single (h : rule part core) : IsSeparated rule [part] core := by
  have hlast := IsSeparated.last isBlank_nil h isBlank_nil
  rwa [List.nil_append, List.append_nil] at hlast

theorem Grammar.IsSeparated.comma_cons (h : rule part core) (hothers : IsSeparated rule parts others) :
    IsSeparated rule (part :: parts) (core ++ ',' :: others) := by
  have hcomma := IsSeparated.comma isBlank_nil h isBlank_nil hothers
  rwa [List.nil_append, List.nil_append] at hcomma

theorem isMember_writeMember {key : String} {phrase : Phrase} {text : List Char}
    (h : IsValue phrase text) :
    IsMember IsValue (pieces key, phrase) (writeString key ++ ':' :: text) :=
  .mk (isString_writeString key) isBlank_nil isBlank_nil h

end Lists

mutual

/-- What is written for a value spells its phrase. -/
theorem isValue_write : ∀ value : Json, IsValue (phraseOf value) (write value)
  | .null => .null
  | .bool true => .true
  | .bool false => .false
  | .number n => .number (isNumber_writeNumber n)
  | .string text => .string (isString_writeString text)
  | .array [] => .emptyArray isBlank_nil
  | .array (first :: others) =>
    .array (isSeparated_writeItems (first :: others) (List.cons_ne_nil first others))
  | .object [] => .emptyObject isBlank_nil
  | .object (first :: others) =>
    .object (isSeparated_writeMembers (first :: others) (List.cons_ne_nil first others))

theorem isSeparated_writeItems :
    ∀ items : List Json, items ≠ [] →
      IsSeparated IsValue (phrasesOf items) (writeItems items)
  | [], h => absurd rfl h
  | [item], _ => .single (isValue_write item)
  | first :: second :: others, _ =>
    .comma_cons (isValue_write first)
      (isSeparated_writeItems (second :: others) (List.cons_ne_nil second others))

theorem isSeparated_writeMembers :
    ∀ members : List (String × Json), members ≠ [] →
      IsSeparated (IsMember IsValue) (partsOf members) (writeMembers members)
  | [], h => absurd rfl h
  | [(_, value)], _ => .single (isMember_writeMember (isValue_write value))
  | (key, value) :: second :: others, _ => by
    have hwrite : writeMembers ((key, value) :: second :: others) =
        (writeString key ++ ':' :: write value) ++ ',' :: writeMembers (second :: others) := by
      rw [writeMembers, List.append_assoc]
      exact List.cons_ne_nil second others
    rw [hwrite]
    exact .comma_cons (isMember_writeMember (isValue_write value))
      (isSeparated_writeMembers (second :: others) (List.cons_ne_nil second others))

end

/-- A value is a document without blanks around it. -/
theorem Grammar.IsValue.isDocument {phrase : Phrase} {text : List Char} (h : IsValue phrase text) :
    IsDocument phrase text := by
  have hdocument := IsDocument.mk isBlank_nil h isBlank_nil
  rwa [List.nil_append, List.append_nil] at hdocument

/-- A printed text is a document. -/
theorem isDocument_print (value : Json) : IsDocument (phraseOf value) value.print.toList := by
  rw [print, String.toList_ofList]
  exact (isValue_write value).isDocument

end JobImages.Json
