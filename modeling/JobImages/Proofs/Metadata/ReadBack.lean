import JobImages.Proofs.Http.Exchange
import JobImages.Proofs.Json.RoundTrip

/-!
# Metadata is read back from what is submitted

What an author wrote is read, given the job's image and printed for the coordinator.  Nothing of it
is lost on the way: the printed text says what the object says, and whoever reads it has the object
again.  A batch is one array of such objects, one level deeper than each of them.

Only integers are kept exactly, so this is said of metadata without doubles.

## Main definitions

* `Metadata.Authored` — metadata that was read from a text, and given images since.

## Main results

* `Metadata.Authored.fits` — such metadata fits the depth of documents;
* `Metadata.reading_undoes_printing` — metadata and batches are read back.
-/

namespace JobImages

namespace Json.Fits

/-- A string takes no level, so that it may stand for any member. -/
theorem put_string {depth : Nat} {members : Members} (h : Fits depth (.object members))
    (key text : String) : Fits depth (.object (Members.put key (.string text) members)) := by
  cases h with
  | object hkeys hmembers =>
    exact .object (Members.nodup_keys_put key _ hkeys)
      (Members.forall_put (.string _ text) hmembers)

end Json.Fits

namespace Metadata

/-- Metadata that was read from the text of a file, and given images since. -/
inductive Authored : Metadata → Prop where
  /-- It was just read. -/
  | read {path : Path} {text : String} {metadata : Metadata}
      (h : Metadata.read path text = .ok metadata) : Authored metadata
  /-- It was given another image. -/
  | withImage {metadata : Metadata} (h : Authored metadata) (image : Image) :
      Authored (metadata.withImage image)

/-- Whether there is a string under the key of the name. -/
def HasName (metadata : Metadata) : Prop :=
  ∃ name, (metadata.get? nameKey).bind Json.text? = some name

theorem read_eq_ok_iff {path : Path} {text : String} {metadata : Metadata} :
    read path text = .ok metadata ↔ Json.read text = .ok metadata.toJson ∧ metadata.HasName := by
  unfold Metadata.read
  split
  · next hread => simp [hread]
  · next members hread =>
    rw [hread]
    split
    · next name hname =>
      constructor
      · intro h
        cases h
        exact ⟨rfl, name, hname⟩
      · rintro ⟨h, -⟩
        cases metadata
        cases h
        rfl
    · next hname =>
      constructor
      · intro h
        cases h
      · rintro ⟨h, name, hsome⟩
        cases metadata
        cases h
        rw [get?, hname] at hsome
        cases hsome
  · next value hobject hread =>
    rw [hread]
    constructor
    · intro h
      cases h
    · rintro ⟨h, -⟩
      cases h
      exact absurd rfl (hobject metadata.members)

theorem Authored.hasName {metadata : Metadata} (h : Authored metadata) : metadata.HasName := by
  induction h with
  | read h => exact (read_eq_ok_iff.1 h).2
  | withImage h image ih =>
    obtain ⟨name, hname⟩ := ih
    -- The image does not stand under the key of the name.
    have hkey : nameKey ≠ imageKey := by decide
    refine ⟨name, ?_⟩
    rw [get?, Metadata.withImage, Json.Members.get?_put_of_ne _ _ hkey]
    exact hname

theorem Authored.fits {metadata : Metadata} (h : Authored metadata) :
    Json.Fits Json.depthLimit metadata.toJson := by
  induction h with
  | read h => exact Json.fits_of_readNested (read_eq_ok_iff.1 h).1
  | withImage h image ih => exact ih.put_string imageKey image.reference

/-- Metadata is read back from its text, at whatever path the text is found. -/
theorem Authored.read_print {metadata : Metadata} (h : Authored metadata)
    (hintegral : metadata.toJson.Integral) (path : Path) :
    Metadata.read path metadata.print = .ok metadata :=
  read_eq_ok_iff.2 ⟨Json.readNested_print h.fits hintegral, h.hasName⟩

/-- A batch is read back by a reader that allows one level more. -/
theorem readNested_printBatch {batch : List Metadata}
    (h : ∀ metadata ∈ batch, Authored metadata ∧ metadata.toJson.Integral) :
    Json.readNested (Json.depthLimit + 1) (printBatch batch) =
      .ok (.array (batch.map toJson)) := by
  refine Json.readNested_print (.array ?_) (.array ?_)
  · rw [List.forall_mem_map]
    intro metadata hmetadata
    exact (h metadata hmetadata).1.fits
  · rw [List.forall_mem_map]
    intro metadata hmetadata
    exact (h metadata hmetadata).2

/-- **Reading undoes printing.**  Metadata that an author wrote and that holds no double is read
back from its text: the same members in the same order, at every depth, and so the same text once
more.  A batch of such metadata, in the body of its request, is read back as the array of exactly
these objects. -/
theorem reading_undoes_printing :
    (∀ metadata, Authored metadata → metadata.toJson.Integral → ∀ path,
      read path metadata.print = .ok metadata ∧
        (read path metadata.print).map print = .ok metadata.print) ∧
    (∀ batch uri, (∀ metadata ∈ batch, Authored metadata ∧ metadata.toJson.Integral) →
      Json.readNested (Json.depthLimit + 1) (Http.batchSubmission uri batch).body =
        .ok (.array (batch.map toJson))) := by
  refine ⟨?_, fun batch uri h => readNested_printBatch h⟩
  intro metadata hauthored hintegral path
  have hread := hauthored.read_print hintegral path
  refine ⟨hread, ?_⟩
  rw [hread]
  rfl

/-- An object with both limits of the integers, an empty container below them and a character that
the author wrote in two escapes, which then is given an image. -/
theorem reading_undoes_printing_of_limits :
    let most : Json.Integer := ⟨18446744073709551615, by decide, by decide⟩
    let least : Json.Integer := ⟨-9223372036854775808, by decide, by decide⟩
    let metadata : Metadata :=
      { members := [("n", .array [.number (.integer most), .number (.integer least), .array []]),
          ("name", .string "😀")] }
    let submitted := metadata.withImage ⟨"r/t-a:latest"⟩
    let text :=
      "\x7b\"n\":[18446744073709551615,-9223372036854775808,[]],\"name\":\"\\ud83d\\ude00\"\x7d"
    read ⟨"job.json"⟩ text = .ok metadata ∧
      read ⟨"again.json"⟩ submitted.print = .ok submitted ∧
      ∀ uri, Json.readNested 128 (Http.batchSubmission uri [submitted, metadata]).body =
        .ok (.array [submitted.toJson, metadata.toJson]) := by
  intro most least metadata submitted text
  have hobject : Json.read text = .ok metadata.toJson := by
    rw [Json.read, Json.readNested]
    unfold text metadata most least
    simp only [String.reduceToList]
    rfl
  have hread : read ⟨"job.json"⟩ text = .ok metadata := read_eq_ok_iff.2 ⟨hobject, "😀", rfl⟩
  have hlimits : Json.Integral
      (.array [.number (.integer most), .number (.integer least), .array []]) := by
    refine .array fun item hitem => ?_
    simp only [List.mem_cons, List.not_mem_nil, or_false] at hitem
    rcases hitem with rfl | rfl | rfl
    · exact .integer most
    · exact .integer least
    · exact .array (List.forall_mem_nil _)
  have hmetadata : metadata.toJson.Integral := by
    refine .object fun member hmember => ?_
    simp only [metadata, List.mem_cons, List.not_mem_nil, or_false] at hmember
    rcases hmember with rfl | rfl
    · exact hlimits
    · exact .string _
  have hsubmitted : submitted.toJson.Integral := by
    cases hmetadata with
    | object hmembers => exact .object (Json.Members.forall_put (.string _) hmembers)
  have hauthored : Authored submitted := .withImage (.read hread) _
  refine ⟨hread, (reading_undoes_printing.1 submitted hauthored hsubmitted _).1, fun uri => ?_⟩
  refine reading_undoes_printing.2 [submitted, metadata] uri ?_
  simp only [List.forall_mem_cons]
  exact ⟨⟨hauthored, hsubmitted⟩, ⟨.read hread, hmetadata⟩, List.forall_mem_nil _⟩

end Metadata

end JobImages
