import JobImages.Proofs.Json.Recognition
import JobImages.Proofs.Json.Spelling

/-!
# Reading what was written

What is written for a value means it, if all its numbers are exact integers.  (A double need not be
read back: its digits are read in two roundings.)  Since documents are what is read, a value is read
back from its compact text by a reader that allows its depth.

## Main results

* `Json.nesting_phraseOf_le`, `Json.value?_phraseOf` — the depth and the meaning of what is written;
* `Json.readNested_print` — a text that was printed is read back.
-/

namespace JobImages.Json

open Grammar

/-- What is written nests no deeper than the value. -/
theorem nesting_phraseOf_le {depth : Nat} {value : Json} (h : Fits depth value) :
    (phraseOf value).nesting ≤ depth := by
  induction h with
  | null => exact Nat.zero_le _
  | bool => exact Nat.zero_le _
  | number => exact Nat.zero_le _
  | string => exact Nat.zero_le _
  | array hitems ih =>
    refine Nat.succ_le_succ ((Phrase.nestingItems_le_iff _).2 ?_)
    rw [phrasesOf_eq_map, List.forall_mem_map]
    exact ih
  | object hkeys hmembers ih =>
    refine Nat.succ_le_succ ((Phrase.nestingMembers_le_iff _).2 ?_)
    rw [partsOf_eq_map, List.forall_mem_map]
    exact ih

theorem items?_phrasesOf {items : List Json}
    (h : ∀ item ∈ items, (phraseOf item).value? = some item) :
    Phrase.items? (phrasesOf items) = some items := by
  induction items with
  | nil => rfl
  | cons item rest ih =>
    rw [List.forall_mem_cons] at h
    exact Phrase.items?_cons_eq_some_iff.2 ⟨item, rest, h.1, ih h.2, rfl⟩

theorem writes?_partsOf {members : Members}
    (h : ∀ member ∈ members, (phraseOf member.2).value? = some member.2) :
    Phrase.writes? (partsOf members) = some members := by
  induction members with
  | nil => rfl
  | cons member rest ih =>
    rw [List.forall_mem_cons] at h
    refine Phrase.writes?_cons_eq_some_iff.2
      ⟨_, member.2, rest, textOf?_pieces member.1, h.1, ih h.2, ?_⟩
    rw [String.ofList_toList]

/-- What is written for a value means it, if its keys are distinct and all its numbers are exact
integers. -/
theorem value?_phraseOf {depth : Nat} {value : Json} (hfits : Fits depth value)
    (hintegral : Integral value) : (phraseOf value).value? = some value := by
  induction hfits with
  | null => rfl
  | bool => rfl
  | number depth n =>
    cases hintegral with
    | integer n =>
      have hnumber := Reader.number?_writeInteger n
      rw [phraseOf, Phrase.value?]
      exact congrArg (Option.map Json.number) hnumber
  | string depth text =>
    rw [phraseOf, Phrase.value?, textOf?_pieces, Option.map_some, String.ofList_toList]
  | array hitems ih =>
    cases hintegral with
    | array hintegral =>
      have hmeans := items?_phrasesOf fun item hitem => ih item hitem (hintegral item hitem)
      rw [phraseOf, Phrase.value?, hmeans]
      rfl
  | object hkeys hmembers ih =>
    cases hintegral with
    | object hintegral =>
      have hmeans := writes?_partsOf fun member hmember =>
        ih member hmember (hintegral member hmember)
      -- The keys are distinct, so all members are kept.
      rw [phraseOf, Phrase.value?, hmeans, Option.map_some, ← Members.ofWrites_eq_kept,
        Members.ofWrites_of_nodup hkeys]

/-- **A text that was printed is read back.**  The reader has to allow the depth of the value. -/
theorem readNested_print {depth : Nat} {value : Json} (hfits : Fits depth value)
    (hintegral : Integral value) : readNested depth value.print = .ok value :=
  readNested_eq_ok_iff.2 ⟨phraseOf value, isDocument_print value, nesting_phraseOf_le hfits,
    value?_phraseOf hfits hintegral⟩

end JobImages.Json
