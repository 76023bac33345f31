import JobImages.Metadata
import JobImages.Proofs.Json.Recognition

/-!
# The language of metadata

Three things can come of the text of a metadata file, and the text alone decides which.  It may
describe an object that is named, or one that is not, or no object at all.  Only what an object says
in the end counts for its name: of the members of one key the last is kept, so a name can be lost to
a later member that is no string.

Which numbers are too great to mean anything is told by their digits, in
`Json.Literal.number?_decided`.

## Main definitions

* `Metadata.IsAdmitted` — a document that nests no deeper than allowed and means something;
* `Metadata.Describes` — a text that describes an object.

## Main results

* `Metadata.read_object_iff` — a text is read as an object if it describes that;
* `Metadata.read_decides_language` — what comes of a text.
-/

namespace JobImages.Metadata

open Json (Members)
open Json.Grammar

/-- A document that nests no deeper than allowed, in which no half of a character stands alone and
no number is too great. -/
structure IsAdmitted (phrase : Phrase) (text : String) : Prop where
  /-- The text is spelled by the rules of the grammar. -/
  document : IsDocument phrase text.toList
  /-- Containers are nested no deeper than allowed. -/
  nesting : phrase.nesting ≤ Json.depthLimit
  /-- Every string and every number means something. -/
  meaningful : phrase.Meaningful

/-- `Describes text members`: the text is a document of an object, and of its members these are
kept. -/
def Describes (text : String) (members : Members) : Prop :=
  ∃ parts writes, IsAdmitted (.object parts) text ∧ Phrase.writes? parts = some writes ∧
    members = Members.kept writes

section Read

variable {text : String} {members : Members}

/-- A text is read as an object if it describes that. -/
theorem read_object_iff : Json.read text = .ok (.object members) ↔ Describes text members := by
  rw [Json.read, Json.readNested_eq_ok_iff]
  constructor
  · rintro ⟨phrase, hdocument, hdepth, hmeans⟩
    have hmeaningful := (Phrase.exists_value?_iff phrase).1 ⟨_, hmeans⟩
    -- Of all phrases only that of an object means one.
    cases phrase with
    | object parts =>
      obtain ⟨writes, hwrites, hkept⟩ := Option.map_eq_some_iff.1 hmeans
      cases hkept
      exact ⟨parts, writes, ⟨hdocument, hdepth, hmeaningful⟩, hwrites, rfl⟩
    | null => cases hmeans
    | bool value => cases hmeans
    | number literal =>
      obtain ⟨n, -, hn⟩ := Option.map_eq_some_iff.1 hmeans
      cases hn
    | string pieces =>
      obtain ⟨found, -, hfound⟩ := Option.map_eq_some_iff.1 hmeans
      cases hfound
    | array items =>
      obtain ⟨values, -, hvalues⟩ := Option.map_eq_some_iff.1 hmeans
      cases hvalues
  · rintro ⟨parts, writes, hadmitted, hwrites, rfl⟩
    refine ⟨.object parts, hadmitted.document, hadmitted.nesting, ?_⟩
    rw [Phrase.value?, hwrites]
    rfl

/-- A text describes one object at most. -/
theorem Describes.unique {others : Members} (h : Describes text members)
    (hothers : Describes text others) : members = others := by
  have hsame := (read_object_iff.2 h).symm.trans (read_object_iff.2 hothers)
  cases hsame
  rfl

/-- A text that describes no object is rejected, in whatever way it fails to. -/
theorem read_of_not_describes (path : Path) (h : ∀ members, ¬Describes text members) :
    ∃ defect, read path text = .error (.metadataDefective path defect) := by
  cases hread : Json.read text with
  | error fault => exact ⟨_, by rw [read, hread]⟩
  | ok value =>
    cases value with
    | object members => exact absurd (read_object_iff.1 hread) (h members)
    | null => exact ⟨_, by rw [read, hread]⟩
    | bool value => exact ⟨_, by rw [read, hread]⟩
    | number n => exact ⟨_, by rw [read, hread]⟩
    | string text => exact ⟨_, by rw [read, hread]⟩
    | array items => exact ⟨_, by rw [read, hread]⟩

theorem read_of_named (path : Path) (h : Describes text members) {name : String}
    (hname : Members.get? members nameKey = some (.string name)) :
    read path text = .ok { members } := by
  rw [read, read_object_iff.2 h]
  simp only [hname, Option.bind_some, Json.text?]

theorem read_of_unnamed (path : Path) (h : Describes text members)
    (hname : ∀ name, Members.get? members nameKey ≠ some (.string name)) :
    read path text = .error (.nameMissing path) := by
  have hnone : (Members.get? members nameKey).bind Json.text? = none := by
    rw [Option.eq_none_iff_forall_ne_some]
    intro name hsome
    obtain ⟨value, hvalue, htext⟩ := Option.bind_eq_some_iff.1 hsome
    exact hname name (Json.text?_eq_some_iff.1 htext ▸ hvalue)
  rw [read, read_object_iff.2 h]
  simp only [hnone]

/-- Three things can come of a text. -/
theorem read_cases (path : Path) (text : String) :
    (∃ members name, Describes text members ∧
        Members.get? members nameKey = some (.string name) ∧ read path text = .ok { members }) ∨
      (∃ members, Describes text members ∧
        (∀ name, Members.get? members nameKey ≠ some (.string name)) ∧
        read path text = .error (.nameMissing path)) ∨
      (∀ members, ¬Describes text members) ∧
        ∃ defect, read path text = .error (.metadataDefective path defect) := by
  by_cases hdescribes : ∃ members, Describes text members
  · obtain ⟨members, hmembers⟩ := hdescribes
    by_cases hnamed : ∃ name, Members.get? members nameKey = some (.string name)
    · obtain ⟨name, hname⟩ := hnamed
      exact .inl ⟨members, name, hmembers, hname, read_of_named path hmembers hname⟩
    · have hunnamed := not_exists.1 hnamed
      exact .inr (.inl ⟨members, hmembers, hunnamed, read_of_unnamed path hmembers hunnamed⟩)
  · have hnone := not_exists.1 hdescribes
    exact .inr (.inr ⟨hnone, read_of_not_describes path hnone⟩)

variable {path : Path}

theorem read_eq_ok_iff_describes {metadata : Metadata} :
    read path text = .ok metadata ↔
      Describes text metadata.members ∧ ∃ name, metadata.get? nameKey = some (.string name) := by
  constructor
  · intro h
    obtain ⟨members, name, hmembers, hname, hread⟩ | ⟨_, -, -, hread⟩ | ⟨-, _, hread⟩ :=
      read_cases path text
    · cases hread.symm.trans h
      exact ⟨hmembers, name, hname⟩
    · cases hread.symm.trans h
    · cases hread.symm.trans h
  · rintro ⟨hmembers, name, hname⟩
    exact read_of_named path hmembers hname

theorem read_eq_nameMissing_iff {other : Path} :
    read path text = .error (.nameMissing other) ↔
      other = path ∧ ∃ members, Describes text members ∧
        ∀ name, Members.get? members nameKey ≠ some (.string name) := by
  constructor
  · intro h
    obtain ⟨_, _, -, -, hread⟩ | ⟨members, hmembers, hunnamed, hread⟩ | ⟨-, _, hread⟩ :=
      read_cases path text
    · cases hread.symm.trans h
    · cases hread.symm.trans h
      exact ⟨rfl, members, hmembers, hunnamed⟩
    · cases hread.symm.trans h
  · rintro ⟨rfl, members, hmembers, hunnamed⟩
    exact read_of_unnamed other hmembers hunnamed

theorem exists_read_eq_defective_iff {other : Path} :
    (∃ defect, read path text = .error (.metadataDefective other defect)) ↔
      other = path ∧ ∀ members, ¬Describes text members := by
  constructor
  · rintro ⟨defect, h⟩
    obtain ⟨_, _, -, -, hread⟩ | ⟨_, -, -, hread⟩ | ⟨hnone, _, hread⟩ := read_cases path text
    · cases hread.symm.trans h
    · cases hread.symm.trans h
    · cases hread.symm.trans h
      exact ⟨rfl, hnone⟩
  · rintro ⟨rfl, hnone⟩
    exact read_of_not_describes other hnone

end Read

/-- **What comes of a text.**  A text is read as metadata if it describes an object and the value
that is kept for its name is a string; the metadata are the members that are kept, in the order in
which their keys come first.  If it describes an object and what is kept for the name is no string,
or nothing is, the name is missing.  If it describes no object, it is defective.  No other error
comes of it, and each names the path. -/
theorem read_decides_language (path : Path) (text : String) :
    (∀ metadata, read path text = .ok metadata ↔
      Describes text metadata.members ∧ ∃ name, metadata.get? nameKey = some (.string name)) ∧
    (∀ other, read path text = .error (.nameMissing other) ↔
      other = path ∧ ∃ members, Describes text members ∧
        ∀ name, Members.get? members nameKey ≠ some (.string name)) ∧
    (∀ other, (∃ defect, read path text = .error (.metadataDefective other defect)) ↔
      other = path ∧ ∀ members, ¬Describes text members) ∧
    ∀ error, read path text = .error error →
      error = .nameMissing path ∨ ∃ defect, error = .metadataDefective path defect := by
  refine ⟨fun metadata => read_eq_ok_iff_describes, fun other => read_eq_nameMissing_iff,
    fun other => exists_read_eq_defective_iff, fun error h => ?_⟩
  obtain ⟨_, _, -, -, hread⟩ | ⟨_, -, -, hread⟩ | ⟨-, defect, hread⟩ := read_cases path text
  · cases hread.symm.trans h
  · cases hread.symm.trans h
    exact .inl rfl
  · cases hread.symm.trans h
    exact .inr ⟨defect, rfl⟩

/-- The name is lost to a member that comes later. -/
example :
    read ⟨"job.json"⟩ "\x7b\"name\":\"widget\",\"name\":7\x7d" =
      .error (.nameMissing ⟨"job.json"⟩) := by
  cbv

end JobImages.Metadata
