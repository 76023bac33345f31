import JobImages.Notify
import JobImages.Proofs.Catalog.Respelling
import JobImages.Proofs.Publish.Law
import JobImages.Publish

/-!
# Runs over a root with other separators

Of the path of a job a run makes two uses.  It is written into lines and remarks, and it is the
directory in which an image is built.  With other separators in the root the text is another one
and the directory is the same, so two such runs start the same processes, submit the same batch and
end alike.

## Main definitions

* `Run.Alike` — two runs that do the same and end alike;
* `Engine.Call.Alike` — two calls that start the same process.

## Main results

* `Publish.run_alike`, `Notify.run_alike` — the two commands;
* `Respelled.same_jobs_and_runs` — other separators in the root do not matter;
* `Respelled.too_many_separators` — unless there are too many of them.
-/

namespace JobImages

/-- Settings for publishing with another root. -/
def PublishSettings.withRoot (other : Path) (settings : PublishSettings) : PublishSettings :=
  { settings with jobs := settings.jobs.withRoot other }

/-- Settings for notifying with another root. -/
def NotifySettings.withRoot (other : Path) (settings : NotifySettings) : NotifySettings :=
  { settings with jobs := settings.jobs.withRoot other }

/-! ## Runs that do the same -/

/-- Two runs that start the same processes, submit the same batches, send the same requests and end
alike. -/
structure Run.Alike {α β : Type} (same : α → β → Prop) (run : Run α) (other : Run β) : Prop where
  processes_eq : other.trace.processes = run.trace.processes
  batches_eq : other.trace.batches = run.trace.batches
  requests_eq : other.trace.requests = run.trace.requests
  result : EndsAlike same run.result other.result

namespace Run

variable {α β γ δ : Type}

theorem Alike.refl (run : Run α) : Alike Eq run run :=
  ⟨rfl, rfl, rfl, .refl run.result⟩

theorem Alike.pure {same : α → β → Prop} {value : α} {other : β} (h : same value other) :
    Alike same (pure value) (pure other) :=
  ⟨rfl, rfl, rfl, .ok h⟩

theorem Alike.ofExcept {same : α → β → Prop} {ending : Except Error α} {other : Except Error β}
    (h : EndsAlike same ending other) : Alike same (ofExcept ending) (ofExcept other) :=
  ⟨rfl, rfl, rfl, h⟩

/-- Runs after runs that are alike are alike if they are so with corresponding values. -/
theorem Alike.bind {same : α → β → Prop} {same' : γ → δ → Prop} {first : Run α} {first' : Run β}
    {next : α → Run γ} {next' : β → Run δ} (hfirst : Alike same first first')
    (hnext : ∀ value other, same value other → Alike same' (next value) (next' other)) :
    Alike same' (first >>= next) (first' >>= next') := by
  obtain ⟨hprocesses, hbatches, hrequests, hresult⟩ := hfirst
  cases h : first.result with
  | ok value =>
    cases h' : first'.result with
    | ok other =>
      rw [h, h'] at hresult
      cases hresult with
      | ok hsame =>
        have hrest := hnext value other hsame
        rw [bind_of_ok next h, bind_of_ok next' h']
        exact ⟨by simp [hprocesses, hrest.processes_eq], by simp [hbatches, hrest.batches_eq],
          by simp [hrequests, hrest.requests_eq], hrest.result⟩
    | error error =>
      rw [h, h'] at hresult
      cases hresult
  | error error =>
    cases h' : first'.result with
    | ok other =>
      rw [h, h'] at hresult
      cases hresult
    | error other =>
      rw [h, h'] at hresult
      cases hresult with
      | error halike =>
        rw [bind_of_error next h, bind_of_error next' h']
        exact ⟨hprocesses, hbatches, hrequests, .error halike⟩

/-- Which path is read, and what line is printed, are of no account. -/
theorem alike_take_read (job other : JobDirectory) :
    Alike Eq (take (.read job)) (take (.read other)) :=
  ⟨rfl, rfl, rfl, .ok rfl⟩

theorem alike_emit_printed (text other : String) :
    Alike Eq (emit [.printed text]) (emit [.printed other]) :=
  ⟨rfl, rfl, rfl, .ok rfl⟩

/-- Remarks are of no account either. -/
theorem alike_emit_logged (records others : List Log.Record) :
    Alike Eq (emit (records.map .logged)) (emit (others.map .logged)) :=
  ⟨by simp [emit], by simp [emit, Trace.batches], by simp [emit], .ok rfl⟩

end Run

/-! ## Calls that start the same process -/

namespace Engine

/-- Two calls with the same arguments and the same input, whose processes start in the same
directory or do not start for the same cause. -/
structure Call.Alike (machine : Machine) (name : String) (asked other : Call) : Prop where
  arguments_eq : other.arguments = asked.arguments
  input_eq : other.input? = asked.input?
  start_eq : start machine name other = start machine name asked

variable {machine : Machine} {name : String} {asked other : Call} {earlier earlier' : List Call}

theorem Call.Alike.refl (asked : Call) : Call.Alike machine name asked asked :=
  ⟨rfl, rfl, rfl⟩

/-- A build in the same directory by another path. -/
theorem alike_build (image : Image) {directory directory' : Path}
    (hnul : '\x00' ∈ directory'.text.toList ↔ '\x00' ∈ directory.text.toList)
    (hdirectory :
      machine.files.resolveDirectory directory' = machine.files.resolveDirectory directory) :
    Call.Alike machine name (.build image directory) (.build image directory') := by
  refine ⟨rfl, rfl, ?_⟩
  have hhas : hasNul directory'.text = hasNul directory.text := by
    rw [hasNul, hasNul, Bool.eq_iff_iff, List.contains_iff_mem, List.contains_iff_mem]
    exact hnul
  simp only [start, workingDirectory, Call.arguments, Call.directory?, Option.any_some, hhas,
    hdirectory]
  rfl

/-- After calls that are alike as many processes were started. -/
theorem nextBehaviour_eq (h : List.Forall₂ (Call.Alike machine name) earlier earlier') :
    nextBehaviour machine name earlier' = nextBehaviour machine name earlier := by
  have hcount : earlier'.countP (starts machine name) = earlier.countP (starts machine name) := by
    induction h with
    | nil => rfl
    | @cons asked other rest rest' hasked hrest ih =>
      have hstarts : starts machine name other = starts machine name asked := by
        rw [starts, starts, hasked.start_eq]
      rw [List.countP_cons, List.countP_cons, ih, hstarts]
  rw [nextBehaviour, nextBehaviour, hcount]

/-- Calls that are alike, after calls that are, are answered alike. -/
theorem call_alike (hearlier : List.Forall₂ (Call.Alike machine name) earlier earlier')
    (hasked : Call.Alike machine name asked other) :
    Run.Alike Eq ((program machine name).call earlier asked)
      ((program machine name).call earlier' other) := by
  have hcommand : commandLine name other = commandLine name asked := by
    rw [commandLine, commandLine, hasked.arguments_eq]
  have hanswer :
      ((program machine name).respond earlier' other).result =
          ((program machine name).respond earlier asked).result ∧
        ((program machine name).respond earlier' other).effects.filterMap Effect.process? =
          ((program machine name).respond earlier asked).effects.filterMap Effect.process? ∧
        ((program machine name).respond earlier' other).effects.filterMap Effect.request? =
          ((program machine name).respond earlier asked).effects.filterMap Effect.request? := by
    -- The answer depends on where the process starts and on how many were started before.
    simp only [program, hasked.start_eq, nextBehaviour_eq hearlier, hcommand]
    cases start machine name asked with
    | error cause => exact ⟨rfl, rfl, rfl⟩
    | ok place =>
      simp only [runProcess, hasked.arguments_eq, hasked.input_eq, hcommand]
      split
      · exact ⟨rfl, rfl, rfl⟩
      · exact ⟨rfl, rfl, rfl⟩
  obtain ⟨hresult, hprocesses, hrequests⟩ := hanswer
  refine ⟨?_, ?_, ?_, ?_⟩
  · simp [call, Run.turnTo, hprocesses]
  · simp [call, Run.turnTo, Trace.batches]
    rfl
  · simp [call, Run.turnTo, hrequests]
  · rw [call, call, Run.turnTo, Run.turnTo, hresult]
    exact .refl _

end Engine

/-! ## Publishing -/

namespace Publish

open Engine (Call)

/-- Two outcomes with the same images, whose directories have paths with the same components. -/
structure Outcome.Alike (outcome other : Outcome) : Prop where
  published_eq : other.published = outcome.published
  skipped : List.Forall₂ (fun path path' => Path.alike path path' = true) outcome.skipped
    other.skipped

section

variable (settings settings' : PublishSettings) {machine : Machine} {name : String}
  (hcredentials : settings'.credentials = settings.credentials)

include hcredentials

theorem ensureLogin_alike (loggedIn : Bool) {earlier earlier' : List Call}
    (hearlier : List.Forall₂ (Call.Alike machine name) earlier earlier') :
    Run.Alike (List.Forall₂ (Call.Alike machine name))
      (ensureLogin settings (Engine.program machine name) loggedIn earlier)
      (ensureLogin settings' (Engine.program machine name) loggedIn earlier') := by
  cases loggedIn with
  | true => exact .pure hearlier
  | false =>
    simp only [ensureLogin, hcredentials, Bool.false_eq_true, if_false]
    refine (Engine.call_alike hearlier (.refl _)).bind fun _ _ _ => ?_
    exact .pure (List.rel_append hearlier (.cons (.refl _) .nil))

/-- The runs over two lists of entries that are alike. -/
theorem entries_alike (himage : ∀ job, settings'.jobs.image job = settings.jobs.image job)
    {listing listing' : List Catalog.Entry}
    (hlisting : List.Forall₂ (Catalog.Entry.Alike machine.files) listing listing') :
    ∀ (loggedIn : Bool) {earlier earlier' : List Call},
      List.Forall₂ (Call.Alike machine name) earlier earlier' →
        Run.Alike Outcome.Alike
          (entries settings (Engine.program machine name) loggedIn earlier listing)
          (entries settings' (Engine.program machine name) loggedIn earlier' listing') := by
  -- Along both lists at once, with the calls that were made before on either side.
  induction hlisting with
  | nil =>
    intro loggedIn earlier earlier' hearlier
    exact .pure ⟨rfl, .nil⟩
  | @cons entry entry' rest rest' hentry hrest ih =>
    intro loggedIn earlier earlier' hearlier
    rw [entries, entries]
    refine (Run.alike_take_read _ _).bind fun _ _ _ => ?_
    refine (Run.Alike.ofExcept hentry.reading).bind fun reading _ hreading => ?_
    subst hreading
    have hjob := hentry.job
    rw [JobDirectory.alike, Bool.and_eq_true] at hjob
    cases reading with
    | none =>
      refine (Run.alike_emit_printed _ _).bind fun _ _ _ => ?_
      refine (ih loggedIn hearlier).bind fun outcome other houtcome => .pure ?_
      exact ⟨houtcome.published_eq, .cons hjob.1 houtcome.skipped⟩
    | some metadata =>
      simp only [himage]
      have hlogin := ensureLogin_alike settings settings' hcredentials loggedIn hearlier
      refine hlogin.bind fun calls calls' hcalls => ?_
      let image := settings.jobs.image metadata.name
      have hbuild : Call.Alike machine name (.build image entry.directory.path)
          (.build image entry'.directory.path) :=
        Engine.alike_build image hentry.nul_iff hentry.directory_eq
      have hpush : Call.Alike machine name (.push image) (.push image) := .refl _
      refine (Run.Alike.refl _).bind fun _ _ _ => ?_
      refine (Engine.call_alike hcalls hbuild).bind fun _ _ _ => ?_
      have hbuilt := List.rel_append hcalls (.cons hbuild .nil)
      refine (Engine.call_alike hbuilt hpush).bind fun _ _ _ => ?_
      refine (Run.Alike.refl _).bind fun _ _ _ => ?_
      have hall := List.rel_append hcalls (.cons hbuild (.cons hpush .nil))
      refine (ih true hall).bind fun outcome other houtcome => .pure ?_
      exact ⟨congrArg (image :: ·) houtcome.published_eq, houtcome.skipped⟩

end

variable {settings : PublishSettings} {machine : Machine} {other : Path}

/-- Publishing with a root that shows the same way does the same. -/
theorem run_alike (hway : settings.jobs.jobsPath.SameWay other)
    (hside : Catalog.SameSide machine.files settings.jobs.metadataFileName settings.jobs.jobsPath
      other) :
    Run.Alike Outcome.Alike (run settings machine)
      (run (settings.withRoot other) machine) := by
  have hcheck : (settings.withRoot other).check = settings.check := by
    simp only [PublishSettings.check, PublishSettings.withRoot,
      JobSettings.check_withRoot hway.ne_empty hway.other_ne_empty]
  rw [run, run, hcheck]
  refine (Run.Alike.refl _).bind fun _ _ _ => ?_
  refine (Run.Alike.refl _).bind fun _ _ _ => ?_
  refine (Run.alike_emit_logged _ _).bind fun _ _ _ => ?_
  refine (Run.Alike.ofExcept (Catalog.listing_alike hway settings.jobs rfl hside)).bind
    fun listing listing' hlisting => ?_
  exact entries_alike settings (settings.withRoot other) rfl (fun _ => rfl) hlisting false .nil

end Publish

/-! ## Notifying -/

namespace Notify

/-- The batches of two lists of entries that are alike. -/
theorem entries_alike {tree : FileTree} (settings settings' : JobSettings)
    (himage : ∀ job, settings'.image job = settings.image job)
    {listing listing' : List Catalog.Entry}
    (hlisting : List.Forall₂ (Catalog.Entry.Alike tree) listing listing') :
    Run.Alike Eq (entries settings listing) (entries settings' listing') := by
  induction hlisting with
  | nil => exact .refl _
  | @cons entry entry' rest rest' hentry hrest ih =>
    rw [entries, entries]
    refine (Run.alike_emit_printed _ _).bind fun _ _ _ => ?_
    refine (Run.alike_take_read _ _).bind fun _ _ _ => ?_
    refine (Run.Alike.ofExcept hentry.reading).bind fun reading _ hreading => ?_
    subst hreading
    cases reading with
    | none => exact ih
    | some metadata =>
      simp only [himage]
      refine Run.Alike.bind (.refl _) fun _ _ _ => ih.bind fun batch _ hbatch => ?_
      subst hbatch
      exact .refl _

/-- The batches of two catalogs that list entries that are alike. -/
theorem collect_alike {tree : FileTree} (settings settings' : JobSettings)
    (himage : ∀ job, settings'.image job = settings.image job) {catalog catalog' : Catalog}
    (hlisting : EndsAlike (List.Forall₂ (Catalog.Entry.Alike tree)) catalog.listing
      catalog'.listing) :
    Run.Alike Eq (collect settings catalog) (collect settings' catalog') := by
  refine Run.Alike.bind (.refl _) fun _ _ _ => ?_
  refine (Run.alike_emit_logged _ _).bind fun _ _ _ => ?_
  refine (Run.Alike.ofExcept hlisting).bind fun listing listing' hentries => ?_
  exact entries_alike settings settings' himage hentries

/-- Notifying with a root that shows the same way does the same. -/
theorem run_alike {settings : NotifySettings} {files : FileTree} {other : Path}
    (network : Network) (library : Http.Library) (hway : settings.jobs.jobsPath.SameWay other)
    (hside : Catalog.SameSide files settings.jobs.metadataFileName settings.jobs.jobsPath other) :
    Run.Alike Eq (run settings files network library)
      (run (settings.withRoot other) files network library) := by
  have hcheck : (settings.withRoot other).check = settings.check := by
    simp only [NotifySettings.check, NotifySettings.withRoot,
      JobSettings.check_withRoot hway.ne_empty hway.other_ne_empty]
  rw [run, run, hcheck]
  refine (Run.Alike.refl _).bind fun _ _ _ => ?_
  refine (Run.Alike.refl _).bind fun _ _ _ => ?_
  refine (Run.Alike.refl _).bind fun _ _ _ => ?_
  have hlisting := Catalog.listing_alike hway settings.jobs rfl hside
  have hcollect :=
    collect_alike settings.jobs (settings.jobs.withRoot other) (fun _ => rfl) hlisting
  refine hcollect.bind fun batch _ hbatch => ?_
  subst hbatch
  exact .refl _

end Notify

/-! ## Other separators -/

open Catalog (entryPath jobDirectories readMetadata ofTree SameSide)

/-- **Other separators in the jobs root do not matter**, as long as no path becomes too long by
them.  The root cannot be listed with either for the same cause, or the same names are listed in the
same order: the paths have the same components, the same metadata is read, or none, or an error of
the same kind, and the same batch is collected.  Publishing starts the same processes in the same
directories, and notifying sends the same requests. -/
theorem Respelled.same_jobs_and_runs (settings : JobSettings) (tree : FileTree) (other : Path)
    (hne : settings.jobsPath.text ≠ "")
    (hrespelled : Respelled settings.jobsPath.text.toList other.text.toList)
    (hside : SameSide tree settings.metadataFileName settings.jobsPath other) :
    let job (root : Path) (name : FileTree.Name) : JobDirectory :=
      .ofPath (entryPath root name) settings.metadataFileName
    let jobs (root : Path) := jobDirectories tree root settings.metadataFileName
    let batch (settings : JobSettings) := (Notify.collect settings (ofTree tree settings)).result
    ((∃ cause, jobs settings.jobsPath = .error (.rootUnreadable settings.jobsPath cause) ∧
        jobs other = .error (.rootUnreadable other cause)) ∨
      ∃ names : List FileTree.Name,
        jobs settings.jobsPath = .ok (names.map (job settings.jobsPath)) ∧
        jobs other = .ok (names.map (job other)) ∧
        ∀ name ∈ names,
          (job settings.jobsPath name).alike (job other name) = true ∧
            EndsAlike Eq (readMetadata tree (job settings.jobsPath name))
              (readMetadata tree (job other name))) ∧
      EndsAlike Eq (batch settings) (batch (settings.withRoot other)) ∧
      (∀ (publishing : PublishSettings) (machine : Machine),
        publishing.jobs = settings → machine.files = tree →
          let run := Publish.run publishing machine
          let respelled := Publish.run (publishing.withRoot other) machine
          EndsAlike Publish.Outcome.Alike run.result respelled.result ∧
            respelled.trace.processes = run.trace.processes) ∧
      ∀ (notifying : NotifySettings) (network : Network) (library : Http.Library),
        notifying.jobs = settings →
          let run := Notify.run notifying tree network library
          let respelled := Notify.run (notifying.withRoot other) tree network library
          EndsAlike Eq run.result respelled.result ∧
            respelled.trace.batches = run.trace.batches ∧
            respelled.trace.requests = run.trace.requests := by
  intro job jobs batch
  have hway : settings.jobsPath.SameWay other := Path.sameWay_of_respelled hne hrespelled
  refine ⟨?_, ?_, ?_, ?_⟩
  · refine (Catalog.jobDirectories_alike hway hside).imp_right ?_
    rintro ⟨names, hroot, hother, halike⟩
    exact ⟨names, hroot, hother, fun name hname =>
      ⟨(halike name hname).job, (halike name hname).reading⟩⟩
  · have hlisting := Catalog.listing_alike hway settings rfl hside
    exact (Notify.collect_alike settings (settings.withRoot other) (fun _ => rfl) hlisting).result
  · rintro publishing machine rfl rfl
    have hruns : Run.Alike _ (Publish.run publishing machine) _ := Publish.run_alike hway hside
    exact ⟨hruns.result, hruns.processes_eq⟩
  · rintro notifying network library rfl
    have hruns := Notify.run_alike network library hway hside
    exact ⟨hruns.result, hruns.batches_eq, hruns.requests_eq⟩

/-- A root with two separators behind it has the job of the root without them, seen from another
directory. -/
theorem Respelled.same_jobs_and_runs_of_two_separators :
    let tree : FileTree :=
      { nodes := [([['j'], ['a']], .directory), ([['j']], .directory), ([['h']], .directory)]
        distinct := by decide
        home := [['h']] }
    let settings : JobSettings := { jobsPath := ⟨"/j"⟩ }
    settings.jobsPath.text ≠ "" ∧ Respelled "/j".toList "/j//".toList ∧
      SameSide tree "metadata.json" ⟨"/j"⟩ ⟨"/j//"⟩ ∧
      (∃ name,
        jobDirectories tree ⟨"/j"⟩ "metadata.json" =
          .ok [.ofPath (entryPath ⟨"/j"⟩ name) "metadata.json"] ∧
        jobDirectories tree ⟨"/j//"⟩ "metadata.json" =
          .ok [.ofPath (entryPath ⟨"/j//"⟩ name) "metadata.json"]) ∧
      EndsAlike Eq (Notify.collect settings (ofTree tree settings)).result
        (Notify.collect (settings.withRoot ⟨"/j//"⟩)
          (ofTree tree (settings.withRoot ⟨"/j//"⟩))).result := by
  intro tree settings
  have hrespelled : Respelled "/j".toList "/j//".toList := .append ['/', 'j'] 2
  have hside : SameSide tree "metadata.json" ⟨"/j"⟩ ⟨"/j//"⟩ := by
    refine ⟨rfl, fun names hnames name hname _ => ?_, fun names hnames name hname => ?_⟩
    · cases hnames
      cases List.mem_singleton.1 hname
      rfl
    · cases hnames
      cases List.mem_singleton.1 hname
      rfl
  obtain ⟨hjobs, hbatch, -⟩ :=
    Respelled.same_jobs_and_runs settings tree ⟨"/j//"⟩ (by decide) hrespelled hside
  refine ⟨by decide, hrespelled, hside, ?_, hbatch⟩
  have hlisted : jobDirectories tree ⟨"/j"⟩ "metadata.json" =
      .ok [.ofPath (entryPath ⟨"/j"⟩ ['a']) "metadata.json"] := rfl
  rcases hjobs with ⟨cause, hroot, -⟩ | ⟨names, hroot, hother, -⟩
  · cases hlisted.symm.trans hroot
  · obtain ⟨name, rfl, -⟩ := List.map_eq_singleton_iff.1
      (Except.ok.inj (hroot.symm.trans hlisted))
    exact ⟨name, hroot, hother⟩

/-- With more separators than a path can have the jobs of a root are not found any more. -/
theorem Respelled.too_many_separators :
    let tree : FileTree :=
      { nodes := [([['j'], ['a']], .directory), ([['j']], .directory)], distinct := by decide }
    let other := Path.withSeparators ⟨"j"⟩ 4096
    Respelled "j".toList other.text.toList ∧
      jobDirectories tree ⟨"j"⟩ "metadata.json" =
        .ok [.ofPath (entryPath ⟨"j"⟩ ['a']) "metadata.json"] ∧
      jobDirectories tree other "metadata.json" =
        .error (.rootUnreadable other .nameTooLong) := by
  intro tree other
  refine ⟨Path.respelled_withSeparators ⟨"j"⟩ 4096, rfl, ?_⟩
  have hway : Path.SameWay ⟨"j"⟩ other :=
    Path.sameWay_of_respelled (by decide) (Path.respelled_withSeparators ⟨"j"⟩ 4096)
  have hlong : other.isTooLong = true := by
    rw [Path.isTooLong_eq_true_iff, Path.utf8ByteSize_withSeparators]
    decide
  have hcheck : FileTree.checkPath other = .error .nameTooLong := by
    rw [Path.checkPath_eq hway.other_ne_empty ((not_congr hway.nul_iff).2 (by decide)), hlong]
    rfl
  have hlist : tree.list other = .error .nameTooLong := by
    rw [FileTree.list, FileTree.resolveDirectory, FileTree.resolve, FileTree.resolveFrom, hcheck]
    rfl
  rw [jobDirectories, Catalog.jobNames, hlist]

end JobImages
