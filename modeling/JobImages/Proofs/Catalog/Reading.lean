import JobImages.Proofs.Catalog.Respelling
import JobImages.Proofs.FileTree.Ending
import JobImages.Proofs.Notify.Submission
import JobImages.Proofs.Publish.Outcome

/-!
# What counts as no metadata

The metadata file of a job is an entry of the job's directory.  What it says, or that it says
nothing, is settled by what following the entry comes to, with the links that are left over after
the way to the directory.  Only one end counts as no metadata: something that is not there.

The path is given to the system as a whole, and a whole path has a limit of its own.  A job's path
can be short enough and the path of its metadata file too long, whatever stands at the entry.

## Main definitions

* `FileTree.EntryEndsAt` — what following an entry comes to;
* `FileTree.Goal.content` — what is read at a goal.

## Main results

* `Catalog.readMetadata_of_entryEndsAt`, `Catalog.readMetadata_of_no_end` — the reading of an entry;
* `Catalog.reading_settled_by_entry` — what counts as no metadata, and what does not;
* `Catalog.missing_entry_of_long_path` — nothing is there, and yet it is an error.
-/

namespace JobImages

namespace FileTree

/-- Following an entry of a directory comes to a goal, within the limit for links, so many of which
were followed on the way to the directory. -/
def EntryEndsAt (tree : FileTree) (spent : Nat) (place : Location) (name : Name) (goal : Goal) :
    Prop :=
  ∃ links, spent + links ≤ linkLimit ∧ EndsAt tree place [.enter name] links goal

/-- What is read at a goal. -/
def Goal.content : Goal → Except SystemError (List UInt8)
  | .directory _ => .error .isDirectory
  | .file _ content => .ok content
  | .missing => .error .noEntry
  | .blocked => .error .notDirectory
  | .overlong => .error .nameTooLong

section

variable {tree : FileTree} {path : Path} {spent : Nat} {place : Location} {name : Name}
  {goal : Goal}

theorem readFile_of_isFound (h : goal.IsFound (resolve tree path)) :
    readFile tree path = goal.content := by
  unfold readFile
  cases goal with
  | missing =>
    rcases h with h | ⟨location, h⟩
    · rw [h]
      rfl
    · rw [h]
      rfl
  | _ =>
    rw [show resolve tree path = _ from h]
    rfl

/-- The path of an entry is walked from its directory, with the links that are left. -/
theorem resolve_entry (hspent : spent ≤ linkLimit)
    (hplace : EndsAt tree (startOf path tree.home) (stepsOf path) spent (.directory place))
    (hpath : path.text ≠ "") (hname : IsEntryName name)
    (hcheck : checkPath (path.join ⟨String.ofList name⟩) = .ok ()) :
    resolve tree (path.join ⟨String.ofList name⟩) =
      walk tree (linkLimit - spent) place [.enter name] := by
  have hwhole := walk_append_of_endsAt hplace rfl [.enter name] (linkLimit - spent)
  rw [Nat.sub_add_cancel hspent] at hwhole
  rw [resolve_of_checkPath hcheck, startOf_join _ hpath hname.isAbsolute_eq_false,
    walk_join tree _ _ hpath hname.isAbsolute_eq_false, hname.stepsOf_eq, hwhole]

end

end FileTree

namespace Catalog

open FileTree (Name Location Goal EndsAt EntryEndsAt IsEntryName linkLimit startOf stepsOf
  checkPath)

/-! ## Reading -/

/-- What a metadata file says by what is read of it. -/
def interpret (path : Path) : Except SystemError (List UInt8) → Except Error (Option Metadata)
  | .ok content =>
    match Text.ofBytes? content with
    | some text => (Metadata.read path text).map some
    | none => .error (.system .notText)
  | .error cause => if cause = .noEntry then .ok none else .error (.system cause)

theorem readMetadata_eq_interpret (tree : FileTree) (job : JobDirectory) :
    readMetadata tree job = interpret job.metadataPath (tree.readFile job.metadataPath) := by
  unfold readMetadata FileTree.readText interpret
  cases tree.readFile job.metadataPath with
  | error cause => rfl
  | ok content =>
    cases htext : Text.ofBytes? content with
    | none => simp [htext, SystemError.noEntry]
    | some text =>
      simp only [htext]
      cases Metadata.read job.metadataPath text <;> rfl

/-- Only at something that is not there nothing is read. -/
theorem interpret_content_eq_none_iff {path : Path} {goal : Goal} :
    interpret path goal.content = .ok none ↔ goal = .missing := by
  constructor
  · intro h
    cases goal with
    | missing => rfl
    | file location content =>
      -- What a file says, or that it does not, is never nothing.
      simp only [Goal.content, interpret] at h
      split at h
      · next text _ =>
        cases hread : Metadata.read path text <;> simp [hread, Except.map] at h
      · cases h
    | _ => cases h
  · rintro rfl
    rfl

section

variable {tree : FileTree} {job : JobDirectory} {spent : Nat} {place : Location} {name : Name}

variable (hspent : spent ≤ linkLimit)
  (hplace : EndsAt tree (startOf job.path tree.home) (stepsOf job.path) spent (.directory place))
  (hpath : job.path.text ≠ "") (hname : IsEntryName name)
  (hmetadata : job.metadataPath = job.path.join ⟨String.ofList name⟩)
  (hcheck : checkPath job.metadataPath = .ok ())

include hspent hplace hpath hname hmetadata hcheck

/-- What a metadata file says is what is found where its entry leads. -/
theorem readMetadata_of_entryEndsAt {goal : Goal} (h : EntryEndsAt tree spent place name goal) :
    readMetadata tree job = interpret job.metadataPath goal.content := by
  obtain ⟨links, hlinks, hends⟩ := h
  have hfound := FileTree.walk_of_endsAt hends (Nat.le_sub_of_add_le' hlinks)
  rw [hmetadata] at hcheck
  rw [← FileTree.resolve_entry hspent hplace hpath hname hcheck, ← hmetadata] at hfound
  rw [readMetadata_eq_interpret, FileTree.readFile_of_isFound hfound]

/-- An entry that comes to no end, or that has too many links on the way to it, is an error. -/
theorem readMetadata_of_no_end (h : ∀ goal, ¬ EntryEndsAt tree spent place name goal) :
    readMetadata tree job = .error (.system .tooManyLinks) := by
  have hwalk : tree.walk (linkLimit - spent) place [.enter name] = .error .tooManyLinks := by
    rcases FileTree.endsAt_or_tooManyLinks tree (linkLimit - spent) place [.enter name] with
      ⟨links, goal, hlinks, hends⟩ | hlinks
    · exact absurd ⟨links, Nat.add_le_of_le_sub' hspent hlinks, hends⟩ (h goal)
    · exact hlinks
  rw [hmetadata] at hcheck
  rw [← FileTree.resolve_entry hspent hplace hpath hname hcheck, ← hmetadata] at hwalk
  rw [readMetadata_eq_interpret, FileTree.readFile, hwalk]
  rfl

/-- A metadata file counts as none if its entry comes to something that is not there. -/
theorem readMetadata_eq_none_iff :
    readMetadata tree job = .ok none ↔ EntryEndsAt tree spent place name .missing := by
  constructor
  · intro h
    by_cases hends : ∃ goal, EntryEndsAt tree spent place name goal
    · obtain ⟨goal, hgoal⟩ := hends
      rw [readMetadata_of_entryEndsAt hspent hplace hpath hname hmetadata hcheck hgoal,
        interpret_content_eq_none_iff] at h
      exact h ▸ hgoal
    · rw [readMetadata_of_no_end hspent hplace hpath hname hmetadata hcheck
        (not_exists.1 hends)] at h
      cases h
  · intro h
    rw [readMetadata_of_entryEndsAt hspent hplace hpath hname hmetadata hcheck h]
    rfl

end

/-! ## Jobs -/

section

variable {settings : JobSettings} {tree : FileTree} {jobs : List JobDirectory} {job : JobDirectory}

/-- The way to a listed job ends in a directory. -/
theorem exists_endsAt_of_mem_jobDirectories
    (hjobs : jobDirectories tree settings.jobsPath settings.metadataFileName = .ok jobs)
    (hjob : job ∈ jobs) :
    ∃ place spent, spent ≤ linkLimit ∧
      EndsAt tree (startOf job.path tree.home) (stepsOf job.path) spent (.directory place) := by
  obtain ⟨-, place, hplace⟩ := resolve_of_mem_jobDirectories hjobs hjob
  rw [FileTree.resolve_of_checkPath (FileTree.checkPath_of_resolve hplace)] at hplace
  obtain ⟨spent, hspent, hends⟩ := FileTree.exists_endsAt_of_walk hplace
  exact ⟨place, spent, hspent, hends⟩

/-- The path of a metadata file is refused only for its length. -/
theorem checkPath_metadataPath {directory : Path} {fileName : String}
    (hdirectory : checkPath directory = .ok ()) (hslash : '/' ∉ fileName.toList)
    (hnul : '\x00' ∉ fileName.toList) :
    checkPath (directory.join ⟨fileName⟩) =
      if (directory.join ⟨fileName⟩).isTooLong then .error .nameTooLong else .ok () := by
  obtain ⟨hquiet, hne, -⟩ := FileTree.checkPath_eq_ok_iff.1 hdirectory
  have habsolute := JobDirectory.isAbsolute_of_no_separator hslash
  refine Path.checkPath_eq (Path.join_ne_empty hne habsolute) ?_
  rw [Path.nul_mem_join habsolute]
  exact not_or.2 ⟨hquiet, hnul⟩

/-- A metadata path that is too long is an error, whatever stands there. -/
theorem readMetadata_of_checkPath {cause : SystemError} (hcause : cause ≠ .noEntry)
    (h : checkPath job.metadataPath = .error cause) :
    readMetadata tree job = .error (.system cause) := by
  have hfile : tree.readFile job.metadataPath = .error cause := by
    rw [FileTree.readFile, FileTree.resolve, FileTree.resolveFrom, h]
    rfl
  rw [readMetadata_eq_interpret, hfile, interpret, if_neg hcause]

/-! ## Who skips a directory -/

/-- Different jobs have different paths. -/
theorem entry_eq_of_path_eq
    (hjobs : jobDirectories tree settings.jobsPath settings.metadataFileName = .ok jobs)
    (hjob : job ∈ jobs) {entry : Entry} (hentry : entry ∈ (ofTree tree settings).listed)
    (hpath : entry.directory.path = job.path) :
    entry = { directory := job, reading := readMetadata tree job } := by
  obtain ⟨others, hothers, other, hother, rfl⟩ := mem_listed_ofTree_iff.1 hentry
  have hsame : other = job := by
    rw [(resolve_of_mem_jobDirectories hothers hother).1,
      (resolve_of_mem_jobDirectories hjobs hjob).1, hpath]
  rw [hsame]

/-- If a catalog has no error, what a job adds is settled by its reading. -/
theorem metadata?_eq_none_iff
    (hjobs : jobDirectories tree settings.jobsPath settings.metadataFileName = .ok jobs)
    (hjob : job ∈ jobs) (hfault : (ofTree tree settings).fault? = none) :
    Entry.metadata? { directory := job, reading := readMetadata tree job } = none ↔
      readMetadata tree job = .ok none := by
  obtain ⟨listing, hlisting, hreadable⟩ := fault?_eq_none_iff.1 hfault
  have hlisted := mem_listed_ofTree_iff.2 ⟨jobs, hjobs, job, hjob, rfl⟩
  rw [listed_of_ok hlisting] at hlisted
  obtain ⟨reading, hreading⟩ := hreadable _ hlisted
  rw [Entry.metadata?_of_ok hreading]
  change readMetadata tree job = .ok reading at hreading
  rw [hreading, Except.ok.injEq]

/-- Publishing that succeeds skips the jobs whose reading gives no metadata. -/
theorem mem_skipped_iff
    (hjobs : jobDirectories tree settings.jobsPath settings.metadataFileName = .ok jobs)
    (hjob : job ∈ jobs) {publishing : PublishSettings} {engine : Engine}
    {outcome : Publish.Outcome}
    (h : (Publish.execute publishing (ofTree tree settings) engine).result = .ok outcome) :
    job.path ∈ outcome.skipped ↔ readMetadata tree job = .ok none := by
  obtain ⟨hfault, rfl⟩ := Publish.execute_ok h
  rw [← metadata?_eq_none_iff hjobs hjob hfault]
  constructor
  · intro hskipped
    obtain ⟨entry, hentry, hpath⟩ := List.mem_map.1 hskipped
    obtain ⟨hlisted, hnone⟩ := List.mem_filter.1 hentry
    rw [entry_eq_of_path_eq hjobs hjob hlisted hpath] at hnone
    exact Option.isNone_iff_eq_none.1 hnone
  · intro hnone
    have hlisted := mem_listed_ofTree_iff.2 ⟨jobs, hjobs, job, hjob, rfl⟩
    exact List.mem_map.2
      ⟨_, List.mem_filter.2 ⟨hlisted, Option.isNone_iff_eq_none.2 hnone⟩, rfl⟩

end

/-- **Only a missing file counts as no metadata.**  The metadata file of a listed job is an entry of
its directory.  If its path is too long that is an error, whatever stands there.  Otherwise there is
no metadata if following the entry comes to something that is not there, and only then; a directory,
a file on the way, a name that is too long and too many links are errors, and a file says what the
whole of it does.  So what publishing skips, and what notifying leaves out, has no such file. -/
theorem reading_settled_by_entry (settings : JobSettings) (tree : FileTree)
    {jobs : List JobDirectory} {job : JobDirectory}
    (hname : IsEntryName settings.metadataFileName.toList)
    (hnul : '\x00' ∉ settings.metadataFileName.toList)
    (hjobs : jobDirectories tree settings.jobsPath settings.metadataFileName = .ok jobs)
    (hjob : job ∈ jobs) :
    ∃ place spent, spent ≤ linkLimit ∧
      EndsAt tree (startOf job.path tree.home) (stepsOf job.path) spent (.directory place) ∧
      let Ends (goal : Goal) := EntryEndsAt tree spent place settings.metadataFileName.toList goal
      let reading := readMetadata tree job
      (job.metadataPath.isTooLong = true → reading = .error (.system .nameTooLong)) ∧
      (job.metadataPath.isTooLong = false →
        (reading = .ok none ↔ Ends .missing) ∧
        (∀ below, Ends (.directory below) → reading = .error (.system .isDirectory)) ∧
        (Ends .blocked → reading = .error (.system .notDirectory)) ∧
        (Ends .overlong → reading = .error (.system .nameTooLong)) ∧
        ((∀ goal, ¬ Ends goal) → reading = .error (.system .tooManyLinks)) ∧
        (∀ location content, Ends (.file location content) →
          (Text.ofBytes? content = none → reading = .error (.system .notText)) ∧
          ∀ text, Text.ofBytes? content = some text →
            reading = (Metadata.read job.metadataPath text).map some) ∧
        (∀ (publishing : PublishSettings) (machine : Machine) (outcome : Publish.Outcome),
          publishing.jobs = settings → machine.files = tree →
          (Publish.run publishing machine).result = .ok outcome →
            (job.path ∈ outcome.skipped ↔ Ends .missing)) ∧
        ∀ (notifying : NotifySettings) (network : Network) (library : Http.Library)
          (batch : List Metadata), notifying.jobs = settings →
          batch ∈ (Notify.run notifying tree network library).trace.batches →
            let contribution? (job : JobDirectory) :=
              Notify.contribution? settings { directory := job, reading := readMetadata tree job }
            batch = jobs.filterMap contribution? ∧ (contribution? job = none ↔ Ends .missing)) := by
  obtain ⟨place, spent, hspent, hplace⟩ := exists_endsAt_of_mem_jobDirectories hjobs hjob
  refine ⟨place, spent, hspent, hplace, ?_⟩
  intro Ends reading
  obtain ⟨hofPath, found, hfound⟩ := resolve_of_mem_jobDirectories hjobs hjob
  have hdirectory := FileTree.checkPath_of_resolve hfound
  have hmetadata : job.metadataPath = job.path.join ⟨settings.metadataFileName⟩ :=
    congrArg JobDirectory.metadataPath hofPath
  have hcheck := checkPath_metadataPath hdirectory hname.no_separator hnul
  rw [← hmetadata] at hcheck
  refine ⟨fun hlong => ?_, fun hfits => ?_⟩
  · rw [hlong] at hcheck
    exact readMetadata_of_checkPath (by decide) hcheck
  · have hpath := FileTree.text_ne_of_checkPath hdirectory
    rw [hfits] at hcheck
    rw [← String.ofList_toList (s := settings.metadataFileName)] at hmetadata
    have hends (goal : Goal) (h : Ends goal) :
        reading = interpret job.metadataPath goal.content :=
      readMetadata_of_entryEndsAt hspent hplace hpath hname hmetadata hcheck h
    have hnone : reading = .ok none ↔ Ends .missing :=
      readMetadata_eq_none_iff hspent hplace hpath hname hmetadata hcheck
    refine ⟨hnone, fun below h => hends _ h, fun h => hends _ h, fun h => hends _ h,
      readMetadata_of_no_end hspent hplace hpath hname hmetadata hcheck,
      fun location content h => ⟨fun htext => ?_, fun text htext => ?_⟩, ?_, ?_⟩
    · rw [hends _ h, Goal.content, interpret, htext]
    · rw [hends _ h, Goal.content, interpret, htext]
    · rintro publishing machine outcome rfl rfl h
      obtain ⟨-, -, hexecute⟩ := Run.result_bind_eq_ok_iff.1 h
      exact (mem_skipped_iff hjobs hjob hexecute).trans hnone
    · -- A batch is submitted only if all metadata was read.
      rintro notifying network library batch rfl hbatch contribution?
      obtain ⟨-, hfault, rfl⟩ :=
        (Notify.mem_batches_run_iff notifying tree network library batch).1 hbatch
      have hlisted : (ofTree tree notifying.jobs).listed =
          jobs.map fun job => { directory := job, reading := readMetadata tree job } := by
        rw [ofTree, hjobs, listed_of_ok rfl]
      refine ⟨?_, ?_⟩
      · rw [hlisted, List.filterMap_map]
        rfl
      · rw [← hnone, ← metadata?_eq_none_iff hjobs hjob hfault]
        exact Option.map_eq_none_iff

/-- A link to nothing counts as no metadata, also if it says where that is from the root of the
system. -/
theorem reading_settled_by_entry_of_dangling_link :
    let tree : FileTree :=
      { nodes := [([['j'], ['a'], ['m']], .link ⟨"/gone"⟩), ([['j'], ['a']], .directory),
          ([['j']], .directory), ([['h']], .directory)]
        distinct := by decide
        home := [['h']] }
    let settings : JobSettings := { jobsPath := ⟨"../j"⟩, metadataFileName := "m" }
    let job : JobDirectory := .ofPath (entryPath ⟨"../j"⟩ ['a']) "m"
    IsEntryName "m".toList ∧ '\x00' ∉ "m".toList ∧
      jobDirectories tree settings.jobsPath settings.metadataFileName = .ok [job] ∧
      readMetadata tree job = .ok none := by
  intro tree settings job
  have hname : IsEntryName "m".toList := ⟨by decide, by decide, by decide, by decide⟩
  have hnul : '\x00' ∉ "m".toList := by decide
  have hjobs : jobDirectories tree settings.jobsPath settings.metadataFileName = .ok [job] := by
    show jobDirectories tree ⟨"../j"⟩ "m" = .ok [.ofPath (entryPath ⟨"../j"⟩ ['a']) "m"]
    rfl
  refine ⟨hname, hnul, hjobs, ?_⟩
  obtain ⟨place, spent, -, hplace, -, hfits⟩ :=
    reading_settled_by_entry settings tree hname hnul hjobs (List.mem_singleton.2 rfl)
  -- The way to the job has no links on it, and that of its entry has one.
  have hstart : startOf job.path tree.home = [['h']] := by
    show startOf (entryPath ⟨"../j"⟩ ['a']) _ = _
    rfl
  have hsteps : stepsOf job.path = [.up, .enter ['j'], .enter ['a']] := by
    show stepsOf (entryPath ⟨"../j"⟩ ['a']) = _
    rfl
  have hway : EndsAt tree [['h']] [.up, .enter ['j'], .enter ['a']] 0
      (.directory [['j'], ['a']]) :=
    .up (.directory (by decide) rfl (.directory (by decide) rfl (.arrived _)))
  have hgone : stepsOf ⟨"/gone"⟩ ++ [] = [.stay, .enter "gone".toList] := rfl
  have hentry : EndsAt tree [['j'], ['a']] [.enter ['m']] 1 .missing := by
    refine .link (by decide) rfl ?_
    rw [hgone]
    exact .stay (.vacant [] (by decide) rfl)
  rw [hstart, hsteps] at hplace
  obtain ⟨rfl, hsame⟩ := hway.unique hplace
  cases hsame
  have hfile : settings.metadataFileName.toList = ['m'] := by
    show "m".toList = _
    rfl
  rw [hfile] at hfits
  exact (hfits rfl).1.2 ⟨1, by decide, hentry⟩

/-- Nothing is there, but the path is too long to be looked up: that is an error. -/
theorem missing_entry_of_long_path :
    let tree : FileTree :=
      { nodes := [([['j'], ['a']], .directory), ([['j']], .directory)], distinct := by decide }
    let root := Path.withSeparators ⟨"j"⟩ 4085
    let job : JobDirectory := .ofPath (entryPath root ['a']) "metadata.json"
    IsEntryName "metadata.json".toList ∧
      jobDirectories tree root "metadata.json" = .ok [job] ∧
      EndsAt tree (startOf job.path tree.home) (stepsOf job.path) 0
        (.directory [['j'], ['a']]) ∧
      EntryEndsAt tree 0 [['j'], ['a']] "metadata.json".toList .missing ∧
      readMetadata tree job = .error (.system .nameTooLong) := by
  -- The number stands for itself, so that nothing is computed that many times.
  generalize hn : 4085 = n
  intro tree root job
  have hroot : root.text.utf8ByteSize = 1 + n := Path.utf8ByteSize_withSeparators ⟨"j"⟩ n
  have hway : Path.SameWay ⟨"j"⟩ root :=
    Path.sameWay_of_respelled (by decide) (Path.respelled_withSeparators ⟨"j"⟩ n)
  have hrelative : Path.isAbsolute ⟨String.ofList ['a']⟩ = false := by rfl
  have hbytes : (entryPath root ['a']).text.utf8ByteSize = 1 + n + 1 := by
    rw [entryPath, Path.withSeparators_join ⟨"j"⟩ (by omega) hrelative,
      String.utf8ByteSize_append, hroot]
    rfl
  have hname : IsEntryName "metadata.json".toList :=
    ⟨by decide, by decide, by decide, by decide⟩
  have hlisted : jobDirectories tree root "metadata.json" = .ok [job] := by
    have hnames : jobNames tree ⟨"j"⟩ = .ok [['a']] := by rfl
    have hlist : tree.list ⟨"j"⟩ = .ok [['a']] := by rfl
    have hfits : root.isTooLong = Path.isTooLong ⟨"j"⟩ :=
      Path.isTooLong_eq_false_iff.2 (by rw [hroot, FileTree.pathLimit]; omega)
    rw [jobDirectories, jobNames_eq hway hfits fun names hentries name hmem _ => ?_, hnames]
    · rfl
    · cases hlist.symm.trans hentries
      cases List.mem_singleton.1 hmem
      exact Path.isTooLong_eq_false_iff.2 (by rw [hbytes, FileTree.pathLimit]; omega)
  have hplace : EndsAt tree (startOf job.path tree.home) (stepsOf job.path) 0
      (.directory [['j'], ['a']]) := by
    have hwalk : tree.walk 0 (startOf job.path tree.home) (stepsOf job.path) =
        .ok (.directory [['j'], ['a']]) := by
      show tree.walk 0 (startOf (root.join _) _) (stepsOf (root.join _)) = _
      rw [FileTree.startOf_join _ hway.other_ne_empty hrelative, startOf, hway.isAbsolute_eq,
        hway.walk_join_eq tree 0 _ hrelative]
      rfl
    obtain ⟨links, hlinks, hends⟩ := FileTree.exists_endsAt_of_walk hwalk
    rwa [Nat.le_zero.1 hlinks] at hends
  refine ⟨hname, hlisted, hplace, ⟨0, by decide, .vacant [] (by decide) rfl⟩, ?_⟩
  obtain ⟨-, found, hfound⟩ := resolve_of_mem_jobDirectories hlisted (List.mem_singleton.2 rfl)
  have hlong : ((entryPath root ['a']).join ⟨"metadata.json"⟩).isTooLong = true := by
    obtain ⟨between, htext⟩ := FileTree.exists_text_join (entryPath root ['a'])
      (JobDirectory.isAbsolute_of_no_separator hname.no_separator)
    have hfile : "metadata.json".utf8ByteSize = 13 := by rfl
    rw [Path.isTooLong_eq_true_iff, htext, String.utf8ByteSize_append, hbytes,
      String.utf8ByteSize_append, hfile, FileTree.pathLimit]
    omega
  have hcheck : checkPath ((entryPath root ['a']).join ⟨"metadata.json"⟩) = _ :=
    checkPath_metadataPath (FileTree.checkPath_of_resolve hfound) hname.no_separator (by decide)
  rw [hlong] at hcheck
  exact readMetadata_of_checkPath (by decide) hcheck

end Catalog

end JobImages
