import JobImages.Proofs.Metadata.ReadBack

/-!
# The one field that is added

Metadata that is given an image stays as its author wrote it but for one member.  That member is
written over where it stands, or comes last if it was not there, so that the members around it do
not move: taking it out again gives the same fields in the same order, with or without the image.

The name is another member, and it was there when the text was read.  So it is there ever after, and
whoever asks for it never meets with the empty text that stands for a name that is missing.

## Main definitions

* `Json.Members.without` — the members but for those under one key;
* `Json.Members.swapOut` — the same with the last member put into the gap.

## Main results

* `Json.Members.put_cases` — where a member is written, and what stands around it;
* `Metadata.Authored.nodup_keys`, `Metadata.Authored.exists_name` — what all metadata have;
* `Metadata.image_is_only_change` — what an image changes, and what it leaves.
-/

namespace JobImages

namespace Json

namespace Members

/-- The members but for those under a key, in their order. -/
def without (key : String) (members : Members) : Members :=
  members.filter (·.1 != key)

/-- The members but for the first under a key, whose place is taken by the last of all. -/
def swapOut (key : String) (members : Members) : Members :=
  let before := members.takeWhile (·.1 != key)
  match members.dropWhile (·.1 != key) with
  | [] => before
  | _ :: after =>
    match after.getLast? with
    | some last => before ++ last :: after.dropLast
    | none => before

section Put

variable {key : String} {members before after : Members}

/-- A member is written over in its place, or behind all others. -/
theorem put_cases (key : String) (value : Json) (members : Members) :
    (∃ before old after, key ∉ keys before ∧ members = before ++ (key, old) :: after ∧
        put key value members = before ++ (key, value) :: after) ∨
      key ∉ keys members ∧ put key value members = members ++ [(key, value)] := by
  induction members with
  | nil => exact .inr ⟨List.not_mem_nil, rfl⟩
  | cons first rest ih =>
    obtain ⟨k, v⟩ := first
    by_cases hk : k = key
    · subst hk
      exact .inl ⟨[], v, rest, List.not_mem_nil, rfl, by rw [put, if_pos rfl, List.nil_append]⟩
    · -- The first member stays in front of whatever is done to the others.
      have hfirst : key ∉ [k] := fun hmem => hk (List.mem_singleton.1 hmem).symm
      rw [put, if_neg hk]
      rcases ih with ⟨before, old, after, hbefore, hmembers, hput⟩ | ⟨hnew, hput⟩
      · refine .inl ⟨(k, v) :: before, old, after, ?_, ?_, ?_⟩
        · exact fun hmem => (List.mem_cons.1 hmem).elim (fun heq => hk heq.symm) hbefore
        · rw [hmembers, List.cons_append]
        · rw [hput, List.cons_append]
      · refine .inr ⟨?_, by rw [hput, List.cons_append]⟩
        exact fun hmem => (List.mem_cons.1 hmem).elim (fun heq => hk heq.symm) hnew

theorem bne_of_not_mem (h : key ∉ keys members) : ∀ member ∈ members, (member.1 != key) = true := by
  intro member hmember
  have hne : member.1 ≠ key := fun heq => h (heq ▸ List.mem_map_of_mem hmember)
  simpa using hne

theorem without_split (value : Json) :
    without key (before ++ (key, value) :: after) = without key before ++ without key after := by
  simp [without]

/-- What is written under a key is gone once that is taken out. -/
theorem without_put (key : String) (value : Json) (members : Members) :
    without key (put key value members) = without key members := by
  rcases put_cases key value members with
    ⟨before, old, after, -, hmembers, hput⟩ | ⟨hnew, hput⟩
  · rw [hput, hmembers, without_split, without_split]
  · rw [hput, without_split]
    simp [without]

theorem swapOut_of_not_mem (h : key ∉ keys members) : swapOut key members = members := by
  have htake : members.takeWhile (·.1 != key) = members :=
    List.takeWhile_eq_self_iff.2 (bne_of_not_mem h)
  have hdrop : members.dropWhile (·.1 != key) = [] :=
    List.dropWhile_eq_nil_iff.2 (bne_of_not_mem h)
  simp only [swapOut, htake, hdrop]

theorem swapOut_split (value : Json) (h : key ∉ keys before) :
    swapOut key (before ++ (key, value) :: after) =
      match after.getLast? with
      | some last => before ++ last :: after.dropLast
      | none => before := by
  have htake : (before ++ (key, value) :: after).takeWhile (·.1 != key) = before := by
    rw [List.takeWhile_append_of_pos (bne_of_not_mem h)]
    simp
  have hdrop :
      (before ++ (key, value) :: after).dropWhile (·.1 != key) = (key, value) :: after := by
    rw [List.dropWhile_append_of_pos (bne_of_not_mem h)]
    simp
  simp only [swapOut, htake, hdrop]

/-- It makes no difference which of the two ways of taking a member out is meant. -/
theorem swapOut_put (key : String) (value : Json) (members : Members) :
    swapOut key (put key value members) = swapOut key members := by
  rcases put_cases key value members with
    ⟨before, old, after, hbefore, hmembers, hput⟩ | ⟨hnew, hput⟩
  · rw [hput, hmembers, swapOut_split value hbefore, swapOut_split old hbefore]
  · -- Behind a new member nothing stands that could take its place.
    rw [hput, swapOut_split value hnew, swapOut_of_not_mem hnew]
    rfl

end Put

end Members

end Json

namespace Metadata

open Json (Members)

variable {metadata : Metadata}

/-! ## What all metadata have -/

/-- No two members have one key. -/
theorem Authored.nodup_keys (h : Authored metadata) : (Members.keys metadata.members).Nodup := by
  have hfits := h.fits
  rw [toJson] at hfits
  cases hfits with
  | object hkeys hmembers => exact hkeys

/-- The name is a string that is there. -/
theorem Authored.exists_name (h : Authored metadata) :
    ∃ name, metadata.get? nameKey = some (.string name) ∧ metadata.name = name := by
  obtain ⟨name, hname⟩ := h.hasName
  obtain ⟨value, hvalue, htext⟩ := Option.bind_eq_some_iff.1 hname
  have hstring : value = .string name := Json.text?_eq_some_iff.1 htext
  refine ⟨name, hstring ▸ hvalue, ?_⟩
  rw [Metadata.name, hname, Option.getD_some]

/-! ## What an image changes -/

section Image

variable (metadata) (image : Image)

theorem get?_withImage_of_ne {key : String} (h : key ≠ imageKey) :
    (metadata.withImage image).get? key = metadata.get? key :=
  Members.get?_put_of_ne _ _ h

theorem name_withImage : (metadata.withImage image).name = metadata.name := by
  have hkey : nameKey ≠ imageKey := by decide
  rw [name, name, get?_withImage_of_ne metadata image hkey]

theorem keys_withImage :
    Members.keys (metadata.withImage image).members =
      if imageKey ∈ Members.keys metadata.members then Members.keys metadata.members
      else Members.keys metadata.members ++ [imageKey] := by
  split
  · next hmem => exact Members.keys_put_of_mem _ hmem
  · next hnew => exact Members.keys_put_of_not_mem _ hnew

theorem withImage_withImage (second : Image) :
    (metadata.withImage image).withImage second = metadata.withImage second := by
  rw [withImage, withImage, withImage, Members.put_put]

end Image

/-- **An image is the only change.**  Metadata that an author wrote have distinct keys and a name,
whatever images they were given.  Another image leaves the name, all other values and the order of
the keys, its own coming last if it is new; it replaces an image that was there, and once the image
is taken out again nothing is left of the change. -/
theorem image_is_only_change (h : Authored metadata) :
    (Members.keys metadata.members).Nodup ∧
      (∃ name, metadata.get? nameKey = some (.string name) ∧ metadata.name = name) ∧
      ∀ first second : Image,
        let given := metadata.withImage first
        given.name = metadata.name ∧
          (∀ key, key ≠ imageKey → given.get? key = metadata.get? key) ∧
          given.get? imageKey = some (.string first.reference) ∧
          Members.keys given.members =
            (if imageKey ∈ Members.keys metadata.members then Members.keys metadata.members
            else Members.keys metadata.members ++ [imageKey]) ∧
          given.withImage second = metadata.withImage second ∧
          (∀ settings : JobSettings,
            let attached := metadata.withImage (settings.image metadata.name)
            attached.withImage (settings.image attached.name) = attached) ∧
          Members.without imageKey given.members = Members.without imageKey metadata.members ∧
          Members.swapOut imageKey given.members = Members.swapOut imageKey metadata.members := by
  refine ⟨h.nodup_keys, h.exists_name, fun first second => ?_⟩
  intro given
  refine ⟨name_withImage metadata first, fun key => get?_withImage_of_ne metadata first,
    Members.get?_put_self _ _ _, keys_withImage metadata first,
    withImage_withImage metadata first second, ?_, Members.without_put _ _ _,
    Members.swapOut_put _ _ _⟩
  intro settings attached
  -- The name is as before, so its image is the one that is there.
  have hname : attached.name = metadata.name := name_withImage metadata _
  rw [hname]
  exact withImage_withImage metadata _ _

/-- An object with an old image in front and a name that was first a number. -/
theorem image_is_only_change_of_stale :
    let text := "\x7b\"image_name\":\"old\",\"name\":7,\"tags\":[],\"name\":\"widget\"\x7d"
    let metadata : Metadata :=
      { members :=
          [("image_name", .string "old"), ("name", .string "widget"), ("tags", .array [])] }
    let given := metadata.withImage ⟨"r/t-widget:latest"⟩
    read ⟨"job.json"⟩ text = .ok metadata ∧ given.name = "widget" ∧
      Members.keys given.members = ["image_name", "name", "tags"] ∧
      given.get? imageKey = some (.string "r/t-widget:latest") ∧
      given.get? "tags" = some (.array []) ∧
      Members.without imageKey given.members =
        [("name", .string "widget"), ("tags", .array [])] := by
  intro text metadata given
  have hobject : Json.read text = .ok metadata.toJson := by
    rw [Json.read, Json.readNested]
    unfold text metadata
    simp only [String.reduceToList]
    rfl
  have hread : read ⟨"job.json"⟩ text = .ok metadata := read_eq_ok_iff.2 ⟨hobject, "widget", rfl⟩
  obtain ⟨-, -, hlaw⟩ := image_is_only_change (.read hread)
  obtain ⟨hsame, hothers, himage, hkeys, -, -, hwithout, -⟩ := hlaw ⟨"r/t-widget:latest"⟩ ⟨""⟩
  have htags : "tags" ≠ imageKey := by decide
  refine ⟨hread, hsame.trans rfl, hkeys.trans ?_, himage, (hothers "tags" htags).trans rfl,
    hwithout.trans rfl⟩
  rfl

end Metadata

end JobImages
