import JobImages.Proofs.Catalog.Listing
import JobImages.Proofs.Engine.Commands
import JobImages.Proofs.Publish.Outcome
import JobImages.Proofs.Settings.FileName

/-!
# Where images are built

The path of a job is resolved three times: to see whether it leads to a directory, on the way to the
metadata file, and for the process that builds the image.  The second time the way goes on, with
fewer links to spare than the others have, so that it may come to nothing where they do not; but if
it leads to a file, the file is in the directory to which the others lead.

## Main definitions

* `Publish.IsContext` — the directory of a job, with the job's metadata in it.

## Main results

* `Publish.isContext_of_reading` — a job with metadata has a context;
* `Publish.start_build_error` — why a build is not started;
* `Publish.build_context_holds_metadata` — every build runs in the context of its job.
-/

namespace JobImages.Publish

open FileTree (Location)

/-- A directory is the context of a listed job with some metadata: the job's path leads to it, and
under the name that all metadata files have, a file with the metadata is found from there. -/
structure IsContext (settings : JobSettings) (files : FileTree) (directory : Path)
    (place : Location) (metadata : Metadata) : Prop where
  listed : ∃ jobs,
    Catalog.jobDirectories files settings.jobsPath settings.metadataFileName = .ok jobs ∧
      JobDirectory.ofPath directory settings.metadataFileName ∈ jobs
  leads : files.resolve directory = .ok (.directory place)
  described : ∃ location content text,
    files.resolveFrom place ⟨settings.metadataFileName⟩ = .ok (.file location content) ∧
      Text.ofBytes? content = some text ∧
      Metadata.read (JobDirectory.ofPath directory settings.metadataFileName).metadataPath text =
        .ok metadata

section

variable {settings : JobSettings} {files : FileTree} {machine : Machine} {name : String}

/-- A listed directory whose metadata can be read leads to the context of its job. -/
theorem isContext_of_reading (hcheck : settings.check = .ok ()) {entry : Catalog.Entry}
    (hentry : entry ∈ (Catalog.ofTree files settings).listed) {metadata : Metadata}
    (hreading : entry.reading = .ok (some metadata)) :
    ∃ place, IsContext settings files entry.directory.path place metadata := by
  obtain ⟨jobs, hjobs, job, hjob, rfl⟩ := Catalog.mem_listed_ofTree_iff.1 hentry
  obtain ⟨hpath, listed, hlisted⟩ := Catalog.resolve_of_mem_jobDirectories hjobs hjob
  obtain ⟨hname, hslash⟩ := JobSettings.fileName_of_check hcheck
  obtain ⟨location, content, text, hfile, htext, hread⟩ :=
    Catalog.readMetadata_eq_some_iff.1 hreading
  rw [hpath] at hfile hread
  -- The way to the file leads through the directory that was seen when the jobs were listed.
  obtain ⟨place, hplace, hfrom⟩ := FileTree.resolveFrom_of_resolve_join
    (FileTree.text_ne_of_checkPath (FileTree.checkPath_of_resolve hlisted))
    (JobDirectory.isAbsolute_of_no_separator hslash) hname hfile
  exact ⟨place, ⟨jobs, hjobs, hpath ▸ hjob⟩, hplace, location, content, text, hfrom, htext, hread⟩

/-! ## Why a process is not started -/

/-- A build in a directory that is there is not started for its image, or for the program as it is
seen from that directory. -/
theorem start_build_error {image : Image} {directory : Path} {place : Location}
    {cause : SystemError} (hplace : machine.files.resolve directory = .ok (.directory place))
    (h : Engine.start machine name (.build image directory) = .error cause) :
    (cause = .nulInArgument ∧ (Engine.hasNul name ∨ Engine.hasNul image.reference)) ∨
      Engine.programFault? machine place name = some cause ∨
      Engine.programFault? machine place name = none ∧ cause = .argumentsTooLong ∧
        Engine.isTooLongArgument image.reference := by
  have hnul : Engine.hasNul directory.text = false := by
    have hcheck := FileTree.checkPath_eq_ok_iff.1 (FileTree.checkPath_of_resolve hplace)
    simpa [Engine.hasNul] using hcheck.1
  have hdirectory : Engine.workingDirectory machine (.build image directory) = .ok place :=
    FileTree.resolveDirectory_eq_ok_iff.2 hplace
  rcases Engine.start_error_cases h with ⟨rfl, hname | hargument | hpath⟩ | hmissing |
    ⟨found, hfound, hfault⟩
  · exact .inl ⟨rfl, .inl hname⟩
  · have hwords : Engine.hasNul "build" = false ∧ Engine.hasNul "-t" = false ∧
        Engine.hasNul "." = false := by decide
    exact .inl ⟨rfl, .inr (by simpa [Engine.Call.arguments, hwords] using hargument)⟩
  · simp [Engine.Call.directory?, hnul] at hpath
  · rw [hdirectory] at hmissing
    cases hmissing
  · rw [hdirectory] at hfound
    cases hfound
    refine .inr (hfault.imp_right fun ⟨hnone, hcause, hlong⟩ => ⟨hnone, hcause, ?_⟩)
    have hwords : Engine.isTooLongArgument "build" = false ∧
        Engine.isTooLongArgument "-t" = false ∧ Engine.isTooLongArgument "." = false := by decide
    simpa [Engine.Call.arguments, hwords] using hlong

end

/-! ## The law of contexts -/

section

variable {settings : PublishSettings} {machine : Machine}

/-- A build is of a job with metadata, in the context of that job. -/
theorem isContext_of_build {image : Image} {directory : Path}
    (h : .build image directory ∈ (run settings machine).trace.calls) :
    ∃ place metadata, IsContext settings.jobs machine.files directory place metadata ∧
      image = settings.jobs.image metadata.name := by
  cases hcheck : settings.check with
  | error problem =>
    rw [run_of_check_error hcheck] at h
    cases h
  | ok value =>
    rw [run_of_check hcheck] at h
    have hjobs : settings.jobs.check = .ok () := (bind_eq_ok_iff.1 hcheck).1
    rcases mem_calls_execute h with hlogin | ⟨entry, hentry, metadata, hreading, hbuild | hpush⟩
    · cases hlogin
    · obtain ⟨place, hcontext⟩ := isContext_of_reading hjobs hentry hreading
      cases hbuild
      exact ⟨place, metadata, hcontext, rfl⟩
    · cases hpush

/-- A process is that of a call of the run, where that call starts it. -/
theorem call_of_process {process : Engine.Launch}
    (h : process ∈ (run settings machine).trace.processes) :
    ∃ asked ∈ (run settings machine).trace.calls, process.arguments = asked.arguments ∧
      Engine.workingDirectory machine asked = .ok process.directory := by
  cases hcheck : settings.check with
  | error problem =>
    rw [run_of_check_error hcheck] at h
    cases h
  | ok value =>
    rw [run_of_check hcheck] at h ⊢
    rw [processes_execute] at h
    obtain ⟨k, hk⟩ := List.getElem?_of_mem h
    obtain ⟨before, asked, after, hcalls, -, hlaunch⟩ := Engine.getElem?_processesOf hk
    refine ⟨asked, by simp [hcalls], ?_⟩
    cases hstart : Engine.start machine settings.engine asked with
    | error cause =>
      rw [Engine.launch?_of_error hstart] at hlaunch
      cases hlaunch
    | ok place =>
      rw [Engine.launch?_of_ok hstart] at hlaunch
      cases hlaunch
      exact ⟨rfl, Engine.workingDirectory_of_start hstart⟩

/-- A run that ends because a process was not started made the call for it last. -/
theorem start_of_notStarted {command : String} {cause : SystemError}
    (h : (run settings machine).result = .error (.engineFailed command (.notStarted cause))) :
    ∃ asked ∈ (run settings machine).trace.calls,
      command = Engine.commandLine settings.engine asked ∧
        Engine.start machine settings.engine asked = .error cause := by
  cases hcheck : settings.check with
  | error problem =>
    rw [run_of_check_error hcheck] at h
    cases h
  | ok value =>
    rw [run_of_check hcheck] at h ⊢
    rcases execute_error h with hfault | ⟨before, asked, hcalls, hfails⟩
    · exact (Catalog.isOfFiles_of_fault?_ofTree hfault).elim
    · refine ⟨asked, by simp [hcalls], ?_⟩
      rw [Engine.result_respond, Engine.failure?] at hfails
      cases hstart : Engine.start machine settings.engine asked with
      | error other =>
        rw [hstart] at hfails
        cases hfails
        exact ⟨rfl, rfl⟩
      | ok place =>
        simp only [hstart] at hfails
        split at hfails
        · cases hfails
        · next hended =>
          split at hended <;> cases hended
          cases hfails

/-- The call of a run has a directory to run in. -/
theorem exists_workingDirectory {asked : Engine.Call}
    (h : asked ∈ (run settings machine).trace.calls) :
    ∃ place, Engine.workingDirectory machine asked = .ok place := by
  cases asked with
  | login credentials => exact ⟨_, rfl⟩
  | push image => exact ⟨_, rfl⟩
  | build image directory =>
    obtain ⟨place, metadata, hcontext, -⟩ := isContext_of_build h
    exact ⟨place, FileTree.resolveDirectory_eq_ok_iff.2 hcontext.leads⟩

/-- **The law of contexts.**  Every listed job leads to a directory.  A build is made in the
directory to which its job's path leads, and the image is named by the metadata in the file that is
found there.  So no build, and no other call, fails to start because of the directory in which it
would run: what is left is a character that no argument can have, an argument that is too long, and
the program.  A program that is not given as a relative path is found from there if it is found for
any other call. -/
theorem build_context_holds_metadata (settings : PublishSettings) (machine : Machine) :
    let run := run settings machine
    (∀ jobs,
      Catalog.jobDirectories machine.files settings.jobs.jobsPath
          settings.jobs.metadataFileName = .ok jobs →
        ∀ job ∈ jobs, ∃ place, machine.files.resolve job.path = .ok (.directory place)) ∧
    (∀ image directory, .build image directory ∈ run.trace.calls →
      ∃ place metadata, IsContext settings.jobs machine.files directory place metadata ∧
        image = settings.jobs.image metadata.name ∧
        Engine.workingDirectory machine (.build image directory) = .ok place ∧
        ∀ cause, Engine.start machine settings.engine (.build image directory) = .error cause →
          ((cause = .nulInArgument ∧
              (Engine.hasNul settings.engine ∨ Engine.hasNul image.reference)) ∨
            Engine.programFault? machine place settings.engine = some cause ∨
            cause = .argumentsTooLong ∧ Engine.isTooLongArgument image.reference) ∧
          (Engine.isRelative settings.engine = false →
            ∀ other, Engine.starts machine settings.engine other →
              Engine.programFault? machine place settings.engine = none)) ∧
    (∀ process ∈ run.trace.processes, process.arguments.head? = some "build" →
      ∃ directory metadata,
        IsContext settings.jobs machine.files directory process.directory metadata ∧
        .build (settings.jobs.image metadata.name) directory ∈ run.trace.calls ∧
        process.arguments =
          ["build", "-t", (settings.jobs.image metadata.name).reference, "."]) ∧
    (∀ command cause, run.result = .error (.engineFailed command (.notStarted cause)) →
      ∃ asked ∈ run.trace.calls, ∃ place, command = Engine.commandLine settings.engine asked ∧
        Engine.workingDirectory machine asked = .ok place ∧
        (cause = .nulInArgument ∨
          Engine.programFault? machine place settings.engine = some cause ∨
          cause = .argumentsTooLong)) := by
  intro run
  refine ⟨fun jobs hjobs job hjob => ?_, fun image directory hbuild => ?_,
    fun process hprocess hhead => ?_, fun command cause hresult => ?_⟩
  · exact (Catalog.resolve_of_mem_jobDirectories hjobs hjob).2
  · obtain ⟨place, metadata, hcontext, himage⟩ := isContext_of_build hbuild
    refine ⟨place, metadata, hcontext, himage,
      FileTree.resolveDirectory_eq_ok_iff.2 hcontext.leads, fun cause hcause => ⟨?_, ?_⟩⟩
    · refine (start_build_error hcontext.leads hcause).imp_right (.imp_right ?_)
      rintro ⟨-, htoolong⟩
      exact htoolong
    · intro hrelative other hstarts
      -- From where the other call runs the program can be started, and so from everywhere.
      rw [Engine.starts] at hstarts
      split at hstarts
      · next found hfound =>
        rw [Engine.programFault?_of_not_relative hrelative found]
        exact (Engine.of_start hfound).2
      · cases hstarts
  · obtain ⟨asked, hasked, harguments, hdirectory⟩ := call_of_process hprocess
    rw [harguments] at hhead ⊢
    cases asked with
    | login credentials => simp [Engine.Call.arguments] at hhead
    | push image => simp [Engine.Call.arguments] at hhead
    | build image directory =>
      obtain ⟨place, metadata, hcontext, rfl⟩ := isContext_of_build hasked
      -- The process runs where the path leads, and that is one place.
      have hplace := FileTree.resolveDirectory_eq_ok_iff.1 hdirectory
      rw [hcontext.leads] at hplace
      cases hplace
      exact ⟨directory, metadata, hcontext, hasked, rfl⟩
  · obtain ⟨asked, hasked, hcommand, hstart⟩ := start_of_notStarted hresult
    obtain ⟨place, hplace⟩ := exists_workingDirectory hasked
    refine ⟨asked, hasked, place, hcommand, hplace, ?_⟩
    rcases Engine.start_error_cases hstart with ⟨hnul, -⟩ | hmissing | ⟨found, hfound, hfault⟩
    · exact .inl hnul
    · rw [hplace] at hmissing
      cases hmissing
    · rw [hplace] at hfound
      cases hfound
      exact .inr (hfault.imp_right fun h => h.2.1)

/-- A job that is a link is built where the link leads, by a program that is given as a path. -/
example :
    let machine : Machine :=
      { files :=
          { nodes := [([['j']], .directory), ([['j'], ['d']], .link ⟨"/z"⟩),
              ([['z']], .directory), ([['h']], .directory), ([['e']], .file []),
              ([['z'], ['m']], .file (Text.toBytes "\x7b\"name\":\"w\"\x7d"))]
            distinct := by decide
            home := [['h']] }
        installed := []
        notExecutable := []
        fileFault? := fun _ => none
        processes := [] }
    let settings : PublishSettings :=
      { jobs :=
          { jobsPath := ⟨"../j"⟩, teamName := "t", registry := "r", metadataFileName := "m" }
        credentials := ⟨"u", "p"⟩
        engine := "/e" }
    (run settings machine).trace.processes.map (fun process => process.directory) =
      [[['h']], [['z']], [['h']]] := by
  decide +kernel

end

end JobImages.Publish
