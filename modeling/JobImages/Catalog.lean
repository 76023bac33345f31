import JobImages.FileTree.Resolve
import JobImages.JobDirectory
import JobImages.Log.Basic
import JobImages.Metadata

/-!
# Catalogs of jobs

A catalog lists the directories that may be jobs, in the order in which they are taken, and knows
for each what its metadata file says.  A directory without one is no job.  The listing itself may
fail, and so may each reading.

The catalog of a tree of files lists the subdirectories of the jobs root in the order of their
names.

## Main definitions

* `Catalog` — a listing, with the reading of each directory;
* `Catalog.jobNames` — the entries of a jobs root that may be jobs;
* `Catalog.readMetadata` — what a directory's metadata file says;
* `Catalog.ofTree` — the catalog of a tree of files.

## Main results

* `Catalog.sortNames_perm`, `Catalog.pairwise_sortNames` — sorting keeps the names and puts them in
  order.
-/

namespace JobImages

/-- A directory of a catalog. -/
structure Catalog.Entry where
  /-- The directory. -/
  directory : JobDirectory
  /-- What its metadata file says: nothing if there is no such file. -/
  reading : Except Error (Option Metadata)

/-- A list of directories that may be jobs. -/
structure Catalog where
  /-- The directories in order. -/
  listing : Except Error (List Catalog.Entry)
  /-- What there is to remark once they are listed. -/
  remarks : List Log.Record

namespace Catalog

/-- A name is put before the first that it does not follow. -/
def insertName (name : FileTree.Name) : List FileTree.Name → List FileTree.Name
  | [] => [name]
  | first :: rest => if first < name then first :: insertName name rest else name :: first :: rest

/-- Names in the order of their characters, which is also the order of their bytes. -/
def sortNames (names : List FileTree.Name) : List FileTree.Name :=
  names.foldr insertName []

theorem insertName_perm (name : FileTree.Name) (names : List FileTree.Name) :
    (insertName name names).Perm (name :: names) := by
  induction names with
  | nil => exact .refl _
  | cons first rest ih =>
    unfold insertName
    split
    · exact (ih.cons first).trans (.swap name first rest)
    · exact .refl _

/-- Sorting keeps every name. -/
theorem sortNames_perm (names : List FileTree.Name) : (sortNames names).Perm names := by
  induction names with
  | nil => exact .refl _
  | cons name rest ih => exact (insertName_perm name _).trans (ih.cons name)

theorem pairwise_insertName {name : FileTree.Name} {names : List FileTree.Name}
    (h : names.Pairwise fun a b => ¬ b < a) :
    (insertName name names).Pairwise fun a b => ¬ b < a := by
  induction names with
  | nil => simp [insertName]
  | cons first rest ih =>
    rw [List.pairwise_cons] at h
    unfold insertName
    split
    · next hlt =>
      refine List.pairwise_cons.2 ⟨fun other hmem => ?_, ih h.2⟩
      rcases List.mem_cons.1 ((insertName_perm name rest).mem_iff.1 hmem) with rfl | hmem
      · exact List.lt_asymm hlt
      · exact h.1 other hmem
    · next hlt =>
      refine List.pairwise_cons.2 ⟨fun other hmem => ?_, List.pairwise_cons.2 h⟩
      rcases List.mem_cons.1 hmem with rfl | hmem
      · exact hlt
      · exact List.not_lt.2 (List.le_trans (List.not_lt.1 hlt) (List.not_lt.1 (h.1 other hmem)))

/-- Sorted names do not decrease. -/
theorem pairwise_sortNames (names : List FileTree.Name) :
    (sortNames names).Pairwise fun a b => ¬ b < a := by
  induction names with
  | nil => exact .nil
  | cons name rest ih => exact pairwise_insertName ih

/-- A name that begins with a dot. -/
def isHidden (name : FileTree.Name) : Bool :=
  name.head? == some '.'

/-- The path of an entry of a directory. -/
def entryPath (root : Path) (name : FileTree.Name) : Path :=
  root.join ⟨String.ofList name⟩

/-- The names of the entries of a root that may be jobs: those that are not hidden and lead to a
directory. -/
def jobNames (tree : FileTree) (root : Path) : Except SystemError (List FileTree.Name) :=
  match tree.list root with
  | .ok names =>
    .ok (sortNames (names.filter fun name =>
      !isHidden name && tree.isDirectory (entryPath root name)))
  | .error cause => .error cause

/-- The directories of a root that may be jobs, in the order of their names. -/
def jobDirectories (tree : FileTree) (root : Path) (fileName : String) :
    Except Error (List JobDirectory) :=
  match jobNames tree root with
  | .ok names => .ok (names.map fun name => JobDirectory.ofPath (entryPath root name) fileName)
  | .error cause => .error (.rootUnreadable root cause)

/-- What the metadata file of a directory says.  Only a file that is not there counts as none. -/
def readMetadata (tree : FileTree) (job : JobDirectory) : Except Error (Option Metadata) :=
  match tree.readText job.metadataPath with
  | .ok text =>
    match Metadata.read job.metadataPath text with
    | .ok metadata => .ok (some metadata)
    | .error error => .error error
  | .error cause => if cause = .noEntry then .ok none else .error (.system cause)

/-- The remark on a listing. -/
def discovered (root : Path) (count : Nat) : Log.Record :=
  { source := .catalog
    level := .debug
    message := "discovered job directories"
    fields := [("root", root.text), ("count", toString count)] }

/-- The catalog of a root in a tree of files. -/
def ofTree (tree : FileTree) (settings : JobSettings) : Catalog :=
  match jobDirectories tree settings.jobsPath settings.metadataFileName with
  | .ok jobs =>
    { listing := .ok (jobs.map fun job => { directory := job, reading := readMetadata tree job })
      remarks := [discovered settings.jobsPath jobs.length] }
  | .error error => { listing := .error error, remarks := [] }

end Catalog

end JobImages
