import JobImages.Json.Basic
import Mathlib.Data.List.Induction

/-!
# Values that documents hold

Not every value can come out of a document.  A document nests containers only so deep, and the
members of an object are written one after the other, so that no key is there twice.

## Main definitions

* `Json.Fits` — a value with no more than so many containers nested in one another, whose objects
  have distinct keys;
* `Json.Integral` — a value in which every number is an exact integer.

## Main results

* `Json.Members.nodup_keys_ofWrites` — members written one after the other have distinct keys;
* `Json.Members.ofWrites_of_nodup` — members with distinct keys are written as they stand.
-/

namespace JobImages.Json

/-- `Fits depth value`: no more than `depth` containers are nested in one another, and in no object
two members have one key. -/
inductive Fits : Nat → Json → Prop where
  /-- A literal nests nothing. -/
  | null (depth : Nat) : Fits depth .null
  /-- A truth value nests nothing. -/
  | bool (depth : Nat) (value : Bool) : Fits depth (.bool value)
  /-- A number nests nothing. -/
  | number (depth : Nat) (value : Number) : Fits depth (.number value)
  /-- A string nests nothing. -/
  | string (depth : Nat) (text : String) : Fits depth (.string text)
  /-- An array takes a level. -/
  | array {depth : Nat} {items : List Json} (hitems : ∀ item ∈ items, Fits depth item) :
      Fits (depth + 1) (.array items)
  /-- An object takes a level, and has distinct keys. -/
  | object {depth : Nat} {members : Members} (hkeys : (Members.keys members).Nodup)
      (hmembers : ∀ member ∈ members, Fits depth member.2) :
      Fits (depth + 1) (.object members)

/-- Every number, at every depth, is an exact integer. -/
inductive Integral : Json → Prop where
  /-- There is no number. -/
  | null : Integral .null
  /-- There is no number. -/
  | bool (value : Bool) : Integral (.bool value)
  /-- The number is an exact integer. -/
  | integer (n : Integer) : Integral (.number (.integer n))
  /-- There is no number. -/
  | string (text : String) : Integral (.string text)
  /-- All numbers are in the elements. -/
  | array {items : List Json} (hitems : ∀ item ∈ items, Integral item) : Integral (.array items)
  /-- All numbers are in the members. -/
  | object {members : Members} (hmembers : ∀ member ∈ members, Integral member.2) :
      Integral (.object members)

/-! ## Members written one after the other -/

namespace Members

variable {P : Json → Prop}

theorem forall_put {key : String} {value : Json} {members : Members} (hvalue : P value)
    (hmembers : ∀ member ∈ members, P member.2) :
    ∀ member ∈ put key value members, P member.2 := by
  induction members with
  | nil =>
    intro member hmember
    rw [put, List.mem_singleton] at hmember
    rw [hmember]
    exact hvalue
  | cons first rest ih =>
    obtain ⟨k, v⟩ := first
    have hrest : ∀ member ∈ rest, P member.2 := fun member hmember =>
      hmembers member (List.mem_cons_of_mem _ hmember)
    intro member hmember
    by_cases hk : k = key
    · rw [put, if_pos hk] at hmember
      rcases List.mem_cons.1 hmember with rfl | hmember
      · exact hvalue
      · exact hrest member hmember
    · rw [put, if_neg hk] at hmember
      rcases List.mem_cons.1 hmember with rfl | hmember
      · exact hmembers _ List.mem_cons_self
      · exact ih hrest member hmember

theorem ofWrites_concat (writes : List (String × Json)) (write : String × Json) :
    ofWrites (writes ++ [write]) = put write.1 write.2 (ofWrites writes) := by
  rw [ofWrites, List.foldl_append]
  rfl

/-- Whatever is written, and however often under one key, the keys are distinct. -/
theorem nodup_keys_ofWrites (writes : List (String × Json)) :
    (keys (ofWrites writes)).Nodup := by
  induction writes using List.reverseRecOn with
  | nil => exact List.nodup_nil
  | append_singleton writes write ih =>
    rw [ofWrites_concat]
    exact nodup_keys_put _ _ ih

theorem forall_ofWrites {writes : List (String × Json)} (h : ∀ write ∈ writes, P write.2) :
    ∀ member ∈ ofWrites writes, P member.2 := by
  induction writes using List.reverseRecOn with
  | nil =>
    intro member hmember
    cases hmember
  | append_singleton writes write ih =>
    rw [ofWrites_concat]
    refine forall_put (h write (by simp)) (ih fun other hother => h other ?_)
    exact List.mem_append_left _ hother

theorem put_of_not_mem {key : String} (value : Json) {members : Members}
    (h : key ∉ keys members) : put key value members = members ++ [(key, value)] := by
  induction members with
  | nil => rfl
  | cons first rest ih =>
    obtain ⟨k, v⟩ := first
    rw [keys, List.map_cons, List.mem_cons, not_or] at h
    rw [put, if_neg (Ne.symm h.1), ih h.2, List.cons_append]

/-- Members of distinct keys are left as they were written. -/
theorem ofWrites_of_nodup {writes : List (String × Json)} (h : (keys writes).Nodup) :
    ofWrites writes = writes := by
  induction writes using List.reverseRecOn with
  | nil => rfl
  | append_singleton writes write ih =>
    rw [keys, List.map_append, List.map_singleton, List.nodup_append] at h
    obtain ⟨hwrites, -, hdisjoint⟩ := h
    have hnew : write.1 ∉ keys writes := fun hmem =>
      hdisjoint write.1 hmem write.1 (List.mem_singleton.2 rfl) rfl
    rw [ofWrites_concat, ih hwrites, put_of_not_mem write.2 hnew]

end Members

end JobImages.Json
