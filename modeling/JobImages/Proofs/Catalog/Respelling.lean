import JobImages.Proofs.Catalog.Listing
import JobImages.Proofs.FileTree.Respelling
import JobImages.Proofs.Readings
import Mathlib.Data.List.Forall2

/-!
# Catalogs of a root with other separators

Two roots that show the same way have the same jobs.  Their paths differ in their text only, so each
of them has the same components, is read with the same outcome and leads to the same directory.

Whatever shows the same way need not be as long.  A path that is too long leads nowhere, so the two
roots are compared as far as the paths below them are too long below both or below neither.

## Main definitions

* `EndsAlike`, `Error.Alike` — ends that differ in the text of paths only;
* `Catalog.SameSide` — two roots below which the same paths are too long;
* `Catalog.Entry.Alike` — two entries that are the same but for the text of their paths.

## Main results

* `Catalog.jobNames_eq` — both roots have the same jobs;
* `Catalog.readMetadata_alike` — which say the same;
* `Catalog.listing_alike` — the catalogs as a whole.
-/

namespace JobImages

/-! ## Ends -/

/-- Two errors that differ at most in the text of a path, not in its components. -/
inductive Error.Alike : Error → Error → Prop where
  | same (error : Error) : Alike error error
  | rootUnreadable {root other : Path} (cause : SystemError) (h : root.alike other = true) :
      Alike (.rootUnreadable root cause) (.rootUnreadable other cause)
  | metadataDefective {path other : Path} (defect : MetadataDefect)
      (h : path.alike other = true) :
      Alike (.metadataDefective path defect) (.metadataDefective other defect)
  | nameMissing {path other : Path} (h : path.alike other = true) :
      Alike (.nameMissing path) (.nameMissing other)

/-- Two ends with corresponding values or with errors that are alike. -/
inductive EndsAlike {α β : Type} (same : α → β → Prop) : Except Error α → Except Error β → Prop
  where
  | ok {value : α} {other : β} (h : same value other) : EndsAlike same (.ok value) (.ok other)
  | error {error other : Error} (h : error.Alike other) :
      EndsAlike same (.error error) (.error other)

theorem EndsAlike.refl {α : Type} (ending : Except Error α) : EndsAlike Eq ending ending := by
  cases ending with
  | ok value => exact .ok rfl
  | error error => exact .error (.same error)

theorem Path.SameWay.alike {path other : Path} (h : path.SameWay other) :
    path.alike other = true := by
  rw [Path.alike, h.components_eq, beq_self_eq_true]

/-! ## The settings with another root -/

/-- Settings with another root. -/
def JobSettings.withRoot (other : Path) (settings : JobSettings) : JobSettings :=
  { settings with jobsPath := other }

@[simp] theorem JobSettings.withRoot_jobsPath (settings : JobSettings) (other : Path) :
    (settings.withRoot other).jobsPath = other := rfl

@[simp] theorem JobSettings.withRoot_metadataFileName (settings : JobSettings) (other : Path) :
    (settings.withRoot other).metadataFileName = settings.metadataFileName := rfl

/-- A root that is given is as good as another. -/
theorem JobSettings.check_withRoot {settings : JobSettings} {other : Path}
    (hroot : settings.jobsPath.text ≠ "") (hother : other.text ≠ "") :
    (settings.withRoot other).check = settings.check := by
  have hempty : settings.jobsPath.text.isEmpty = false := by simpa using hroot
  have hempty' : other.text.isEmpty = false := by simpa using hother
  simp only [check, withRoot, hempty, hempty']

namespace Catalog

open FileTree (Name)

/-- Below two roots the same paths are too long: those of the roots, of the entries that are not
hidden, and of the metadata files of the jobs. -/
structure SameSide (tree : FileTree) (fileName : String) (root other : Path) : Prop where
  root_eq : other.isTooLong = root.isTooLong
  entry_eq : ∀ names, tree.list root = .ok names → ∀ name ∈ names, isHidden name = false →
    (entryPath other name).isTooLong = (entryPath root name).isTooLong
  metadata_eq : ∀ names, jobNames tree root = .ok names → ∀ name ∈ names,
    ((entryPath other name).join ⟨fileName⟩).isTooLong =
      ((entryPath root name).join ⟨fileName⟩).isTooLong

/-- Two entries whose paths have the same components and whose directories are the same, with the
same metadata. -/
structure Entry.Alike (tree : FileTree) (entry other : Entry) : Prop where
  job : entry.directory.alike other.directory = true
  nul_iff : '\x00' ∈ other.directory.path.text.toList ↔ '\x00' ∈ entry.directory.path.text.toList
  directory_eq :
    tree.resolveDirectory other.directory.path = tree.resolveDirectory entry.directory.path
  reading : EndsAlike Eq entry.reading other.reading

/-! ## Reading -/

theorem read_alike {path other : Path} (h : path.alike other = true) (text : String) :
    EndsAlike Eq (Metadata.read path text) (Metadata.read other text) := by
  unfold Metadata.read
  split
  · exact .error (.metadataDefective _ h)
  · split
    · exact .ok rfl
    · exact .error (.nameMissing h)
  · exact .error (.metadataDefective _ h)

/-- Two jobs whose metadata paths lead to the same say the same. -/
theorem readMetadata_alike {tree : FileTree} {job other : JobDirectory}
    (halike : job.metadataPath.alike other.metadataPath = true)
    (hresolve : tree.resolve other.metadataPath = tree.resolve job.metadataPath) :
    EndsAlike Eq (readMetadata tree job) (readMetadata tree other) := by
  have htext : tree.readText other.metadataPath = tree.readText job.metadataPath := by
    rw [FileTree.readText, FileTree.readFile, hresolve]
    rfl
  unfold readMetadata
  rw [htext]
  cases tree.readText job.metadataPath with
  | error cause => exact .refl _
  | ok text =>
    have hread := read_alike halike text
    simp only
    generalize Metadata.read job.metadataPath text = first at hread ⊢
    generalize Metadata.read other.metadataPath text = second at hread ⊢
    cases hread with
    | ok hsame => exact .ok (congrArg some hsame)
    | error herror => exact .error herror

/-! ## Listing -/

section

variable {tree : FileTree} {root other : Path} (hway : root.SameWay other)

include hway

/-- Both roots have the same entries, or cannot be listed for the same cause. -/
theorem list_eq (hlength : other.isTooLong = root.isTooLong) :
    tree.list other = tree.list root := by
  rw [FileTree.list, FileTree.list, hway.resolveDirectory_eq tree hlength]

/-- Both roots have the same jobs, or cannot be listed for the same cause. -/
theorem jobNames_eq (hlength : other.isTooLong = root.isTooLong)
    (hentries : ∀ names, tree.list root = .ok names → ∀ name ∈ names, isHidden name = false →
      (entryPath other name).isTooLong = (entryPath root name).isTooLong) :
    jobNames tree other = jobNames tree root := by
  rw [jobNames, jobNames, list_eq hway hlength]
  cases hlist : tree.list root with
  | error cause => rfl
  | ok names =>
    refine congrArg (fun kept => Except.ok (sortNames kept)) ?_
    refine List.filter_congr fun name hname => ?_
    -- Only of what is not hidden it is asked whether it is a directory.
    cases hhidden : isHidden name with
    | true => rfl
    | false =>
      have hresolve : tree.resolve (entryPath other name) = tree.resolve (entryPath root name) :=
        hway.resolve_join_eq tree _ (hentries names hlist name hname hhidden)
      rw [FileTree.isDirectory, hresolve]
      rfl

/-- An entry of one root is the entry of that name of the other. -/
theorem entry_alike {fileName : String} {name : Name}
    (hentry : (entryPath other name).isTooLong = (entryPath root name).isTooLong)
    (hmetadata : ((entryPath other name).join ⟨fileName⟩).isTooLong =
      ((entryPath root name).join ⟨fileName⟩).isTooLong) :
    let job := JobDirectory.ofPath (entryPath root name) fileName
    let job' := JobDirectory.ofPath (entryPath other name) fileName
    Entry.Alike tree { directory := job, reading := readMetadata tree job }
      { directory := job', reading := readMetadata tree job' } := by
  intro job job'
  have hpath : Path.SameWay job.path job'.path := hway.join _
  have hfile : Path.SameWay job.metadataPath job'.metadataPath := hpath.join _
  refine ⟨?_, hpath.nul_iff, hpath.resolveDirectory_eq tree hentry, ?_⟩
  · rw [JobDirectory.alike, hpath.alike, hfile.alike, Bool.and_self]
  · exact readMetadata_alike hfile.alike (hpath.resolve_join_eq tree _ hmetadata)

/-- Two roots have the same jobs, or cannot be listed for the same cause. -/
theorem jobDirectories_alike {fileName : String} (hside : SameSide tree fileName root other) :
    (∃ cause, jobDirectories tree root fileName = .error (.rootUnreadable root cause) ∧
      jobDirectories tree other fileName = .error (.rootUnreadable other cause)) ∨
    ∃ names : List Name,
      jobDirectories tree root fileName =
          .ok (names.map fun name => .ofPath (entryPath root name) fileName) ∧
        jobDirectories tree other fileName =
          .ok (names.map fun name => .ofPath (entryPath other name) fileName) ∧
        ∀ name ∈ names,
          let job := JobDirectory.ofPath (entryPath root name) fileName
          let job' := JobDirectory.ofPath (entryPath other name) fileName
          Entry.Alike tree { directory := job, reading := readMetadata tree job }
            { directory := job', reading := readMetadata tree job' } := by
  rw [jobDirectories, jobDirectories, jobNames_eq hway hside.root_eq hside.entry_eq]
  cases hnames : jobNames tree root with
  | error cause => exact .inl ⟨cause, rfl, rfl⟩
  | ok names =>
    refine .inr ⟨names, rfl, rfl, fun name hname => ?_⟩
    refine entry_alike hway ?_ (hside.metadata_eq names hnames name hname)
    -- A job is an entry that is not hidden.
    rw [jobNames] at hnames
    split at hnames
    · next entries hlist =>
      cases hnames
      obtain ⟨hentry, hkept⟩ := List.mem_filter.1 ((sortNames_perm _).mem_iff.1 hname)
      have hvisible := (Bool.and_eq_true_iff.1 hkept).1
      exact hside.entry_eq entries hlist name hentry (by simpa using hvisible)
    · cases hnames

/-- The catalogs of two roots list the same entries. -/
theorem listing_alike (settings : JobSettings) (hroot : settings.jobsPath = root)
    (hside : SameSide tree settings.metadataFileName root other) :
    EndsAlike (List.Forall₂ (Entry.Alike tree)) (ofTree tree settings).listing
      (ofTree tree (settings.withRoot other)).listing := by
  subst hroot
  unfold ofTree
  rcases jobDirectories_alike hway hside with
    ⟨cause, hroot, hother⟩ | ⟨names, hroot, hother, halike⟩
  · simp only [hroot, JobSettings.withRoot_jobsPath, JobSettings.withRoot_metadataFileName, hother]
    exact .error (.rootUnreadable cause hway.alike)
  · simp only [hroot, JobSettings.withRoot_jobsPath, JobSettings.withRoot_metadataFileName, hother,
      List.map_map]
    refine .ok (List.forall₂_map_left_iff.2 (List.forall₂_map_right_iff.2 ?_))
    exact List.forall₂_same.2 halike

end

end Catalog

end JobImages
