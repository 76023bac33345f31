import JobImages.Catalog
import JobImages.Proofs.FileTree.Entry

/-!
# What a catalog says

A catalog lists directories, and each says what its metadata file holds.  Whoever goes through a
catalog and stops at the first error meets the same error, whatever is done in between.

## Main definitions

* `Catalog.Entry.metadata?`, `Catalog.Entry.fault?` — the metadata of a directory, and the error
  that keeps it from being read;
* `Catalog.listed` — the directories of a catalog, none if it cannot be listed;
* `Catalog.reached` — the directories up to the first that cannot be read;
* `Catalog.firstFault?`, `Catalog.fault?` — the first error in some directories, and in a catalog;
* `Error.IsOfFiles` — the errors that files can be the cause of.

## Main results

* `Catalog.isOfFiles_of_fault?_ofTree` — the catalog of a tree has no other errors;
* `Catalog.readMetadata_eq_some_iff` — the metadata of a directory is what its file says.
-/

namespace JobImages

/-- A computation whose value is changed ends early as before. -/
theorem eq_error_of_map_eq_error {α β : Type} {f : α → β} {ending : Except Error α} {error : Error}
    (h : ending.map f = .error error) : ending = .error error := by
  cases ending with
  | ok value => cases h
  | error cause =>
    cases h
    rfl

/-- The errors that files can be the cause of: they cannot be listed or read, or do not hold what
they should. -/
def Error.IsOfFiles : Error → Prop
  | .rootUnreadable _ _ | .system _ | .metadataDefective _ _ | .nameMissing _ => True
  | _ => False

namespace Catalog

namespace Entry

/-- The metadata of a directory, if it has some and that can be read. -/
def metadata? (entry : Entry) : Option Metadata :=
  entry.reading.toOption.join

/-- The error in reading a directory's metadata, if there is one. -/
def fault? (entry : Entry) : Option Error :=
  match entry.reading with
  | .ok _ => none
  | .error error => some error

variable {entry : Entry}

theorem metadata?_of_ok {reading : Option Metadata} (h : entry.reading = .ok reading) :
    entry.metadata? = reading := by
  rw [metadata?, h]
  cases reading <;> rfl

theorem reading_eq_of_metadata? {metadata : Metadata}
    (h : entry.metadata? = some metadata) : entry.reading = .ok (some metadata) := by
  cases hreading : entry.reading with
  | ok reading => rw [← h, metadata?_of_ok hreading]
  | error error =>
    rw [metadata?, hreading] at h
    cases h

theorem fault?_of_ok {reading : Option Metadata} (h : entry.reading = .ok reading) :
    entry.fault? = none := by
  rw [fault?, h]

theorem fault?_of_error {error : Error} (h : entry.reading = .error error) :
    entry.fault? = some error := by
  rw [fault?, h]

theorem fault?_eq_none_iff : entry.fault? = none ↔ ∃ reading, entry.reading = .ok reading := by
  cases h : entry.reading with
  | ok reading => simp [fault?, h]
  | error error => simp [fault?, h]

end Entry

/-- The directories that a catalog lists. -/
def listed (catalog : Catalog) : List Entry :=
  catalog.listing.toOption.getD []

/-- The first error that is met in reading some directories in order. -/
def firstFault? (listing : List Entry) : Option Error :=
  listing.findSome? Entry.fault?

/-- The first error that is met in listing a catalog and reading its directories in order. -/
def fault? (catalog : Catalog) : Option Error :=
  match catalog.listing with
  | .ok listing => firstFault? listing
  | .error error => some error

theorem firstFault?_cons_of_ok {entry : Entry} {reading : Option Metadata} (rest : List Entry)
    (h : entry.reading = .ok reading) : firstFault? (entry :: rest) = firstFault? rest := by
  rw [firstFault?, List.findSome?_cons, Entry.fault?_of_ok h]
  rfl

/-- The directories that are looked at in order, up to the first that cannot be read. -/
def reached (listing : List Entry) : List Entry :=
  listing.takeWhile (·.fault?.isNone) ++ (listing.dropWhile (·.fault?.isNone)).take 1

theorem reached_cons_of_ok {entry : Entry} {reading : Option Metadata} (rest : List Entry)
    (h : entry.reading = .ok reading) : reached (entry :: rest) = entry :: reached rest := by
  simp [reached, Entry.fault?_of_ok h]

theorem reached_cons_of_error {entry : Entry} {error : Error} (rest : List Entry)
    (h : entry.reading = .error error) : reached (entry :: rest) = [entry] := by
  simp [reached, Entry.fault?_of_error h]

theorem firstFault?_cons_of_error {entry : Entry} {error : Error} (rest : List Entry)
    (h : entry.reading = .error error) : firstFault? (entry :: rest) = some error := by
  rw [firstFault?, List.findSome?_cons, Entry.fault?_of_error h]

/-- The first error is that of a directory behind some that can be read. -/
theorem firstFault?_append {before : List Entry} {entry : Entry} {error : Error}
    (after : List Entry) (hbefore : ∀ other ∈ before, other.fault? = none)
    (hentry : entry.reading = .error error) :
    firstFault? (before ++ entry :: after) = some error :=
  List.findSome?_eq_some_iff.2
    ⟨before, entry, after, rfl, Entry.fault?_of_error hentry, hbefore⟩

theorem listed_of_ok {catalog : Catalog} {listing : List Entry}
    (h : catalog.listing = .ok listing) : catalog.listed = listing := by
  rw [listed, h]
  rfl

theorem listed_of_error {catalog : Catalog} {error : Error} (h : catalog.listing = .error error) :
    catalog.listed = [] := by
  rw [listed, h]
  rfl

theorem fault?_of_ok {catalog : Catalog} {listing : List Entry}
    (h : catalog.listing = .ok listing) : catalog.fault? = firstFault? listing := by
  rw [fault?, h]

theorem fault?_of_error {catalog : Catalog} {error : Error}
    (h : catalog.listing = .error error) : catalog.fault? = some error := by
  rw [fault?, h]

/-- A catalog has no error if it can be listed and all its directories can be read. -/
theorem fault?_eq_none_iff {catalog : Catalog} :
    catalog.fault? = none ↔
      ∃ listing, catalog.listing = .ok listing ∧
        ∀ entry ∈ listing, ∃ reading, entry.reading = .ok reading := by
  cases hlisting : catalog.listing with
  | ok listing =>
    rw [fault?_of_ok hlisting, firstFault?, List.findSome?_eq_none_iff]
    constructor
    · intro h
      exact ⟨listing, rfl, fun entry hentry => Entry.fault?_eq_none_iff.1 (h entry hentry)⟩
    · rintro ⟨_, hlisted, hreadable⟩ entry hentry
      cases hlisted
      exact Entry.fault?_eq_none_iff.2 (hreadable entry hentry)
  | error error =>
    rw [fault?_of_error hlisting]
    constructor
    · intro h
      cases h
    · rintro ⟨_, hlisted, -⟩
      cases hlisted

/-- A catalog that lists a directory can be listed. -/
theorem listing_of_mem_listed {catalog : Catalog} {entry : Entry} (h : entry ∈ catalog.listed) :
    catalog.listing = .ok catalog.listed := by
  cases hlisting : catalog.listing with
  | ok listing => rw [listed_of_ok hlisting]
  | error error =>
    rw [listed, hlisting] at h
    cases h

/-- The first error is that of a listed directory behind some that can be read. -/
theorem fault?_of_listed {catalog : Catalog} {before after : List Entry} {entry : Entry}
    {error : Error} (hlisted : catalog.listed = before ++ entry :: after)
    (hbefore : ∀ other ∈ before, other.fault? = none) (hentry : entry.reading = .error error) :
    catalog.fault? = some error := by
  have hmem : entry ∈ catalog.listed := by simp [hlisted]
  rw [fault?_of_ok (listing_of_mem_listed hmem), hlisted]
  exact firstFault?_append after hbefore hentry

/-! ## Catalogs of files -/

section Files

variable {files : FileTree} {settings : JobSettings} {job : JobDirectory} {error : Error}

theorem isOfFiles_of_read {path : Path} {text : String}
    (h : Metadata.read path text = .error error) : error.IsOfFiles := by
  unfold Metadata.read at h
  split at h
  · cases h
    trivial
  · split at h
    · cases h
    · cases h
      trivial
  · cases h
    trivial

theorem isOfFiles_of_readMetadata (h : readMetadata files job = .error error) :
    error.IsOfFiles := by
  unfold readMetadata at h
  split at h
  · split at h
    · cases h
    · next hread =>
      cases h
      exact isOfFiles_of_read hread
  · split at h
    · cases h
    · cases h
      trivial

/-- The errors of a tree of files are of listing it, of reading it and of what it says. -/
theorem isOfFiles_of_fault?_ofTree (h : (ofTree files settings).fault? = some error) :
    error.IsOfFiles := by
  unfold ofTree at h
  cases hjobs : jobDirectories files settings.jobsPath settings.metadataFileName with
  | error cause =>
    rw [hjobs] at h
    cases h
    unfold jobDirectories at hjobs
    split at hjobs
    · cases hjobs
    · cases hjobs
      trivial
  | ok jobs =>
    rw [hjobs] at h
    obtain ⟨entry, hentry, hfault⟩ := List.exists_of_findSome?_eq_some h
    obtain ⟨job, -, rfl⟩ := List.mem_map.1 hentry
    unfold Entry.fault? at hfault
    split at hfault
    · cases hfault
    · next hreading =>
      cases hfault
      exact isOfFiles_of_readMetadata hreading

/-- The metadata of a directory is what its file says, which has to be there. -/
theorem readMetadata_eq_some_iff {metadata : Metadata} :
    readMetadata files job = .ok (some metadata) ↔
      ∃ location content text, files.resolve job.metadataPath = .ok (.file location content) ∧
        Text.ofBytes? content = some text ∧
        Metadata.read job.metadataPath text = .ok metadata := by
  simp only [readMetadata]
  constructor
  · intro h
    split at h
    · next text htext =>
      obtain ⟨location, content, hfound, hcontent⟩ := FileTree.readText_eq_ok_iff.1 htext
      split at h
      · next hread =>
        cases h
        exact ⟨location, content, text, hfound, hcontent, hread⟩
      · cases h
    · split at h <;> cases h
  · rintro ⟨location, content, text, hfound, hcontent, hread⟩
    simp only [FileTree.readText_eq_ok_iff.2 ⟨location, content, hfound, hcontent⟩, hread]

/-- The catalog of a tree has the directories that are listed, as they are read. -/
theorem mem_listed_ofTree_iff {entry : Entry} :
    entry ∈ (ofTree files settings).listed ↔
      ∃ jobs, jobDirectories files settings.jobsPath settings.metadataFileName = .ok jobs ∧
        ∃ job ∈ jobs, entry = { directory := job, reading := readMetadata files job } := by
  unfold ofTree
  cases jobDirectories files settings.jobsPath settings.metadataFileName with
  | error error => simp [listed_of_error]
  | ok jobs =>
    rw [listed_of_ok rfl, List.mem_map]
    simp [eq_comm]

end Files

end Catalog

end JobImages
