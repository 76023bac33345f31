import JobImages.CommandLine.Program
import JobImages.Proofs.Notify.Verdict
import JobImages.Proofs.Publish.Answers
import JobImages.Proofs.Publish.Success
import JobImages.Proofs.Publish.Transfer

/-!
# Exit codes and last words

Who starts one of the programs sees its exit code and what it wrote.  The code is zero for a run
that succeeded and one for a run that did not, and the last words say which it was: a summary of
what was pushed, or the error.

A summary cannot be taken for something that the run itself printed.  Its headline ends in a
parenthesis, and no line of a run does.

## Main results

* `Program.publish_code_eq_zero_iff`, `Program.notify_code_eq_zero_iff` — when the code is zero;
* `Program.publish_farewell`, `Program.finish_of_reported` — the last words of publishing;
* `Program.notify_rejection`, `Program.notifyFarewell_of_ne_rejected` — those of notifying;
* `Program.exit_code_sound` — both programs.
-/

namespace JobImages

namespace Trace

theorem output_map_printed (lines : List String) :
    output ((lines.map Effect.printed).map .effect) = lines.flatMap Effect.lineBytes := by
  rw [output_map_effect, List.flatMap_map]
  rfl

end Trace

/-! ## Lines of a run -/

namespace Publish

/-- The headline of a summary. -/
def headline (count : Nat) : String := s!"✅ Published {count} image(s)"

/-- The last character of a text is that of its last part. -/
theorem getLast?_append_of_last (text last : String) {c : Char}
    (h : last.toList.getLast? = some c) : (text ++ last).toList.getLast? = some c := by
  rw [String.toList_append, List.getLast?_append, h]
  rfl

theorem getLast?_headline (count : Nat) : (headline count).toList.getLast? = some ')' :=
  getLast?_append_of_last _ _ rfl

/-- A line that is not a headline, since it does not end like one. -/
theorem ne_headline {text : String} {c : Char} (hlast : text.toList.getLast? = some c)
    (hc : c ≠ ')') (count : Nat) : text ≠ headline count := by
  rintro rfl
  rw [getLast?_headline] at hlast
  cases hlast
  exact hc rfl

/-- A command line ends as the last of the arguments does. -/
theorem getLast?_commandLine {settings : PublishSettings} {catalog : Catalog} {engine : Engine}
    {asked : Engine.Call} (name : String)
    (h : asked ∈ (execute settings catalog engine).trace.calls) :
    ∃ c, (Engine.commandLine name asked).toList.getLast? = some c ∧ c ≠ ')' := by
  rcases mem_calls_execute h with rfl | ⟨entry, -, metadata, -, rfl | rfl⟩
  · refine ⟨'n', getLast?_append_of_last _ _ ?_, by decide⟩
    exact getLast?_append_of_last _ "--password-stdin" rfl
  · refine ⟨'.', getLast?_append_of_last _ _ ?_, by decide⟩
    exact getLast?_append_of_last _ "." rfl
  · refine ⟨'t', getLast?_append_of_last _ _ ?_, by decide⟩
    exact getLast?_append_of_last ("push" ++ " ") _ (getLast?_append_of_last _ "latest" rfl)

/-- No line of a run is the headline of a summary. -/
theorem printed_ne_headline {settings : PublishSettings} {catalog : Catalog} {machine : Machine}
    {name text : String}
    (h : .printed text ∈
      (execute settings catalog (Engine.program machine name)).trace.effects) (count : Nat) :
    text ≠ headline count := by
  have hall := (execute_answered settings (Engine.program machine name) catalog).forall_effects
    (P := fun effect => ∀ text, effect = .printed text → text ≠ headline count) ?_ ?_
  · exact hall _ h text rfl
  · -- Of the run's own effects two are lines, and neither ends in a parenthesis.
    rintro effect (rfl | ⟨directory, rfl⟩ | ⟨record, rfl⟩) text heq
    · cases heq
      exact ne_headline (c := '=') rfl (by decide) count
    · cases heq
      exact ne_headline (c := 'e') (getLast?_append_of_last _ _ rfl) (by decide) count
    · cases heq
  · -- The only line for a call is its command, which ends as its last argument.
    rintro asked hasked before effect heffect text rfl
    rw [Engine.text_of_printed_respond heffect]
    obtain ⟨c, hlast, hc⟩ := getLast?_commandLine name hasked
    exact ne_headline hlast hc count

end Publish

/-! ## The ends of the programs -/

namespace Program

open CommandLine (Environment)

section Finish

variable {α : Type} {run : Run α} (farewell : Except Error α → List Effect)

theorem finish_of_ok {value : α} (h : run.result = .ok value) :
    finish run farewell =
      { trace := run.trace ++ (farewell (.ok value)).map .effect, code := 0 } := by
  simp only [finish, h]

theorem finish_of_error {error : Error} (h : run.result = .error error) :
    finish run farewell =
      { trace := run.trace ++ (farewell (.error error)).map .effect, code := 1 } := by
  simp only [finish, h]

/-- The exit code tells whether the run ended with a value. -/
theorem code_finish_eq_zero_iff :
    (finish run farewell).code = 0 ↔ ∃ value, run.result = .ok value := by
  cases h : run.result with
  | ok value => simp [finish_of_ok farewell h]
  | error error => simp [finish_of_error farewell h]

theorem exists_error_of_code_ne_zero (h : (finish run farewell).code ≠ 0) :
    ∃ error, run.result = .error error := by
  rw [Ne, code_finish_eq_zero_iff] at h
  cases hresult : run.result with
  | ok value => exact absurd ⟨value, hresult⟩ h
  | error error => exact ⟨error, rfl⟩

/-- A run whose last words are an error leaves one line more on standard error. -/
theorem finish_of_reported {error : Error} (h : run.result = .error error)
    (hfarewell : farewell (.error error) = [.reported (errorLine error)]) :
    (finish run farewell).code = 1 ∧
      (finish run farewell).trace.effects = run.trace.effects ++ [.reported (errorLine error)] ∧
      (finish run farewell).trace.output = run.trace.output ∧
      ∀ admits, (finish run farewell).trace.errorOutput admits =
        run.trace.errorOutput admits ++ Effect.lineBytes (errorLine error) := by
  rw [finish_of_error farewell h, hfarewell]
  refine ⟨rfl, ?_, ?_, fun admits => ?_⟩
  · rw [Trace.effects_append, Trace.effects_map_effect]
  · rw [Trace.output_append, Trace.output_map_effect]
    exact List.append_nil _
  · rw [Trace.errorOutput_append, Trace.errorOutput_map_effect]
    exact congrArg _ (List.append_nil _)

/-- Last words are no steps. -/
theorem calls_finish : (finish run farewell).trace.calls = run.trace.calls := by
  rw [finish, Trace.calls_append, Trace.calls_map_effect, List.append_nil]

end Finish

/-! ### Publishing -/

section Publish

variable {settings : PublishSettings} {machine : Machine}

/-- The code is zero if the settings are accepted, everything can be read and every command
succeeds. -/
theorem publish_code_eq_zero_iff :
    (finish (Publish.run settings machine) publishFarewell).code = 0 ↔
      settings.check = .ok () ∧
      (∃ listing, (Catalog.ofTree machine.files settings.jobs).listing = .ok listing ∧
        ∀ entry ∈ listing, ∃ reading, entry.reading = .ok reading) ∧
      ∀ before asked after,
        (Publish.run settings machine).trace.calls = before ++ asked :: after →
          Engine.Succeeds machine settings.engine before asked := by
  rw [code_finish_eq_zero_iff, ← Catalog.fault?_eq_none_iff]
  cases hcheck : settings.check with
  | error problem => simp [Publish.run_of_check_error hcheck]
  | ok value =>
    simp only [Publish.run_of_check hcheck, Publish.result_execute_eq_ok_iff,
      Engine.result_respond_eq_ok_iff, true_and]

variable {outcome : Publish.Outcome}

/-- After a run that succeeded the last words are a summary of what was pushed. -/
theorem publish_farewell (h : (Publish.run settings machine).result = .ok outcome) :
    let run := Publish.run settings machine
    outcome.published = run.trace.calls.filterMap Engine.Call.pushed? ∧
      (run.trace.processes.map (·.arguments)).filter (·.head? = some "push") =
        outcome.published.map (fun image => ["push", image.reference]) ∧
      outcome =
        .ofListing settings.jobs (Catalog.ofTree machine.files settings.jobs).listed := by
  intro run
  have hcheck : settings.check = .ok () := by
    cases hcheck : settings.check with
    | ok value => rfl
    | error problem =>
      rw [Publish.run_of_check_error hcheck] at h
      cases h
  simp only [run, Publish.run_of_check hcheck] at h ⊢
  have hpublished := Publish.published_eq_pushed h
  refine ⟨hpublished, ?_, (Publish.execute_ok h).2⟩
  -- Every command succeeded, so that every call has its process.
  rw [Publish.processes_execute, Engine.map_arguments_processesOf, Engine.filter_push_arguments,
    hpublished]
  intro asked hasked
  obtain ⟨before, after, hcalls⟩ := List.append_of_mem hasked
  have hdone := Publish.respond_of_ok h hcalls
  exact ((Engine.result_respond_eq_ok_iff _ _ _ _).1 hdone).1

/-- Last words start no process. -/
theorem processes_finish_publish (run : Run Publish.Outcome) :
    (finish run publishFarewell).trace.processes = run.trace.processes := by
  have hquiet : (publishFarewell run.result).filterMap Effect.process? = [] := by
    cases run.result with
    | error error => rfl
    | ok outcome =>
      rw [publishFarewell, List.filterMap_map]
      exact List.filterMap_eq_nil_iff.2 fun line _ => rfl
  rw [finish, Trace.processes_append, Trace.processes_map_effect, hquiet, List.append_nil]

theorem output_finish_publish {run : Run Publish.Outcome} (h : run.result = .ok outcome) :
    (finish run publishFarewell).trace.output =
      run.trace.output ++ (summary outcome).flatMap Effect.lineBytes := by
  rw [finish_of_ok _ h, publishFarewell, Trace.output_append, Trace.output_map_printed]

/-- No line of a run is the headline of a summary. -/
theorem publish_printed_ne_headline {text : String}
    (h : .printed text ∈ (Publish.run settings machine).trace.effects) (count : Nat) :
    text ≠ Publish.headline count := by
  cases hcheck : settings.check with
  | ok value =>
    rw [Publish.run_of_check hcheck] at h
    exact Publish.printed_ne_headline h count
  | error problem =>
    rw [Publish.run_of_check_error hcheck] at h
    cases h

end Publish

/-! ### Notifying -/

section Notify

variable {settings : NotifySettings} {files : FileTree} {network : Network}
  {library : Http.Library} (hdocumented : library.Documented)

include hdocumented

/-- The code is zero if one request was sent and answered with the status that accepts. -/
theorem notify_code_eq_zero_iff :
    (finish (Notify.run settings files network library) notifyFarewell).code = 0 ↔
      (∃ request, (Notify.run settings files network library).trace.requests = [request]) ∧
        network.status? 0 = some Coordinator.accepted := by
  rw [code_finish_eq_zero_iff]
  constructor
  · rintro ⟨count, hcount⟩
    obtain ⟨batch, -, hrequest, hstatus, -⟩ :=
      (Notify.result_run_eq_ok_iff settings files network library hdocumented count).1 hcount
    exact ⟨⟨_, hrequest⟩, hstatus⟩
  · rintro ⟨⟨request, hrequest⟩, hstatus⟩
    obtain ⟨response, hresponse, haccepted⟩ := Option.map_eq_some_iff.1 hstatus
    have hverdict := Notify.result_run_of_response hdocumented hrequest hresponse
    rw [Coordinator.verdict, if_pos haccepted] at hverdict
    cases hresult : (Notify.run settings files network library).result with
    | ok count => exact ⟨count, rfl⟩
    | error error =>
      rw [hresult] at hverdict
      cases hverdict

/-- A run whose request is answered with another status ends with a rejection. -/
theorem notify_rejection {request : Http.Request} {response : Http.Response}
    (hrequest : (Notify.run settings files network library).trace.requests = [request])
    (hresponse : network.response? 0 = some response)
    (hother : response.status ≠ Coordinator.accepted) :
    (Notify.run settings files network library).result =
      .error (.rejected response.status response.body) := by
  have hverdict := Notify.result_run_of_response hdocumented hrequest hresponse
  rw [Coordinator.verdict, if_neg hother] at hverdict
  exact eq_error_of_map_eq_error hverdict

omit hdocumented in
theorem notifyFarewell_of_ne_rejected {error : Error}
    (h : ∀ status body, error ≠ .rejected status body) :
    notifyFarewell (.error error) = [.reported (errorLine error)] := by
  unfold notifyFarewell
  split
  · next heq => cases heq
  · next status body heq =>
    cases heq
    exact absurd rfl (h status body)
  · next heq =>
    cases heq
    rfl

omit hdocumented in
/-- Last words send nothing. -/
theorem requests_finish_notify (run : Run Nat) :
    (finish run notifyFarewell).trace.requests = run.trace.requests := by
  have hquiet : (notifyFarewell run.result).filterMap Effect.request? = [] := by
    unfold notifyFarewell
    split <;> rfl
  rw [finish, Trace.requests_append, Trace.requests_map_effect, hquiet, List.append_nil]

end Notify

/-- **Exit codes and last words.**  Publishing exits with zero if its settings are accepted, the
root is listed, every directory is read and every command succeeds.  Then its output ends with a
summary of exactly the images that were pushed, which are those of all directories with metadata,
and with the number of directories without.  Otherwise it exits with one, says why on standard
error and prints no summary.

Notifying exits with zero if it sent one request and that was answered with the status that
accepts.  With another status it exits with one and prints the answer; in every other case it exits
with one and says why on standard error.  The request is sent if nothing is in the way: the settings
are accepted, a client can be made, everything can be read, and the client accepts the URL and
reaches a server there. -/
theorem exit_code_sound [Url.International] :
    (∀ (arguments : List String) (environment : Environment) (settings : PublishSettings)
      (machine : Machine),
      CommandLine.readPublish arguments environment = .ok settings →
      let catalog := Catalog.ofTree machine.files settings.jobs
      let run := Publish.run settings machine
      let exit := publish arguments environment machine
      (exit.code = 0 ↔
        settings.check = .ok () ∧
        (∃ listing, catalog.listing = .ok listing ∧
          ∀ entry ∈ listing, ∃ reading, entry.reading = .ok reading) ∧
        ∀ before asked after, exit.trace.calls = before ++ asked :: after →
          Engine.Succeeds machine settings.engine before asked) ∧
      (exit.code = 0 →
        ∃ (images : List Image) (skipped : Nat),
          images = exit.trace.calls.filterMap Engine.Call.pushed? ∧
          (exit.trace.processes.map (·.arguments)).filter (·.head? = some "push") =
            images.map (fun image => ["push", image.reference]) ∧
          images = catalog.listed.filterMap (fun entry =>
            entry.metadata?.map fun metadata => settings.jobs.image metadata.name) ∧
          skipped = (catalog.listed.filter (·.metadata?.isNone)).length ∧
          exit.trace.output = run.trace.output ++
            (s!"✅ Published {images.length} image(s)" ::
              images.map (fun image => "  " ++ image.reference) ++
              (if skipped = 0 then []
                else [s!"ℹ️ Skipped {skipped} directory(ies) without metadata"])).flatMap
              Effect.lineBytes) ∧
      (exit.code ≠ 0 →
        exit.code = 1 ∧
        (∀ text, .printed text ∈ exit.trace.effects →
          ∀ count : Nat, text ≠ s!"✅ Published {count} image(s)") ∧
        ∃ error, run.result = .error error ∧
          exit.trace.output = run.trace.output ∧
          ∀ admits, exit.trace.errorOutput admits =
            run.trace.errorOutput admits ++ Effect.lineBytes ("Error: " ++ error.message))) ∧
    (∀ (library : Http.Library), library.Documented →
      ∀ (arguments : List String) (environment : Environment) (settings : NotifySettings)
        (files : FileTree) (network : Network),
      CommandLine.readNotify arguments environment = .ok settings →
      let uri := settings.coordinator.uri
      let options := Http.clientOptions settings.coordinator.timeoutSeconds
      let run := Notify.run settings files network library
      let exit := notify arguments environment files network library
      (exit.code = 0 ↔
        (∃ request, exit.trace.requests = [request]) ∧ network.status? 0 = some 201) ∧
      (exit.code = 0 →
        exit.trace.output = run.trace.output ++ Effect.lineBytes "Updated proctor metadata") ∧
      (∀ request response, exit.trace.requests = [request] →
        network.response? 0 = some response → response.status ≠ 201 →
          exit.code = 1 ∧
          exit.trace.output = run.trace.output ++
            (Effect.lineBytes
              "Something went wrong while updating proctor metadata! Response from proctor:" ++
            Effect.lineBytes s!"{response.status} {response.body}")) ∧
      ((∀ request, exit.trace.requests = [request] → network.response? 0 = none) →
        exit.code = 1 ∧
        ∃ error, run.result = .error error ∧
          exit.trace.output = run.trace.output ∧
          ∀ admits, exit.trace.errorOutput admits =
            run.trace.errorOutput admits ++ Effect.lineBytes ("Error: " ++ error.message)) ∧
      ∀ listing, settings.check = .ok () → library.create options = .ok () →
        (Catalog.ofTree files settings.jobs).listing = .ok listing →
        (∀ entry ∈ listing, ∃ reading, entry.reading = .ok reading) →
        library.Accepts options uri → network.reaches uri = true →
          exit.trace.requests = [Http.batchSubmission uri (listing.filterMap fun entry =>
            entry.metadata?.map fun metadata =>
              metadata.withImage (settings.jobs.image metadata.name))]) := by
  refine ⟨fun arguments environment settings machine hsettings => ?_,
    fun library hdocumented arguments environment settings files network hsettings => ?_⟩
  · intro catalog run exit
    have hexit : exit = finish run publishFarewell := by
      simp only [exit, publish, hsettings, run]
    have hcalls : exit.trace.calls = run.trace.calls := by rw [hexit, calls_finish]
    refine ⟨?_, fun hzero => ?_, fun hnonzero => ?_⟩
    · rw [hexit, calls_finish]
      exact publish_code_eq_zero_iff
    · rw [hexit, code_finish_eq_zero_iff] at hzero
      obtain ⟨outcome, houtcome⟩ := hzero
      obtain ⟨hpublished, hpushed, hachieved⟩ := publish_farewell houtcome
      have hskipped : outcome.skipped.length =
          (catalog.listed.filter (·.metadata?.isNone)).length := by
        rw [hachieved]
        exact List.length_map _
      refine ⟨outcome.published, outcome.skipped.length, ?_, ?_, ?_, hskipped, ?_⟩
      · rw [hcalls, hpublished]
      · rw [hexit, processes_finish_publish, hpushed]
      · rw [hachieved]
        rfl
      · rw [hexit, output_finish_publish houtcome, summary]
        simp only [List.isEmpty_iff_length_eq_zero]
    · rw [hexit] at hnonzero
      obtain ⟨error, herror⟩ := exists_error_of_code_ne_zero _ hnonzero
      obtain ⟨hcode, heffects, houtput, herrorOutput⟩ :=
        finish_of_reported publishFarewell herror rfl
      rw [hexit]
      refine ⟨hcode, fun text htext => ?_, error, herror, houtput, herrorOutput⟩
      rw [heffects] at htext
      have hrun : .printed text ∈ run.trace.effects := by simpa using htext
      exact publish_printed_ne_headline hrun
  · intro uri options run exit
    have hexit : exit = finish run notifyFarewell := by
      simp only [exit, notify, hsettings, run]
    have hrequests : exit.trace.requests = run.trace.requests := by
      rw [hexit, requests_finish_notify]
    rw [hrequests]
    refine ⟨?_, fun hzero => ?_, fun request response hrequest hresponse hother => ?_,
      fun hnone => ?_, fun listing hcheck hcreate hlisting hreadable haccepts hreaches => ?_⟩
    · rw [hexit]
      exact notify_code_eq_zero_iff hdocumented
    · rw [hexit, code_finish_eq_zero_iff] at hzero
      obtain ⟨count, hcount⟩ := hzero
      rw [hexit, finish_of_ok _ hcount, Trace.output_append, Trace.output_map_effect]
      exact congrArg _ (List.append_nil _)
    · have hrejected := notify_rejection hdocumented hrequest hresponse hother
      rw [hexit, finish_of_error _ hrejected]
      refine ⟨rfl, ?_⟩
      rw [Trace.output_append, Trace.output_map_effect]
      exact congrArg _ (congrArg _ (List.append_nil _))
    · obtain ⟨error, herror, hkind⟩ := Notify.result_run_of_no_response hdocumented hnone
      obtain ⟨hcode, -, houtput, herrorOutput⟩ :=
        finish_of_reported notifyFarewell herror (notifyFarewell_of_ne_rejected hkind)
      rw [hexit]
      exact ⟨hcode, error, herror, houtput, herrorOutput⟩
    · have hsent := Notify.requests_run_of_no_fault settings files network library hdocumented
        haccepts hreaches (Notify.opening_eq_ok_iff.2 ⟨hcheck, hcreate⟩)
        (Catalog.fault?_eq_none_iff.2 ⟨listing, hlisting, hreadable⟩)
      rw [Catalog.listed_of_ok hlisting] at hsent
      exact hsent

/-- Publishing pushes the image of one directory, with an engine that is given as a path, and skips
another; notifying submits an empty batch, and that is accepted. -/
theorem exit_code_sound_of_one_image :
    let _ : Url.International := { toAscii? := fun _ => none }
    let machine : Machine :=
      { files :=
          { nodes := [([['h']], .directory), ([['h'], ['a']], .directory),
              ([['h'], ['a'], ['m']], .file [123, 34, 110, 97, 109, 101, 34, 58, 34, 119, 34, 125]),
              ([['h'], ['b']], .directory), ([['e']], .file [])]
            distinct := by decide
            home := [['h']] }
        installed := []
        notExecutable := []
        fileFault? := fun _ => none
        processes := [] }
    let settings : PublishSettings :=
      { jobs := { jobsPath := ⟨"."⟩, metadataFileName := "m" }
        credentials := ⟨"u", "p"⟩
        engine := "/e" }
    let arguments := ["--jobs-path", ".", "--username", "u", "--password=p",
      "--metadata-file-name", "m", "--container-engine", "/e"]
    let uri : Url :=
      { scheme := "http".toList
        authority := some
          { username := [], password := [], host := .named "proctord".toList, port := none }
        route := .segments [[]]
        query := none
        fragment := none }
    let notifying : NotifySettings :=
      { jobs := { jobsPath := ⟨"/"⟩ }, coordinator := { uri }, settleDelay := 2000 }
    let arguments' := ["--jobs-path=/", "--uri", "http://proctord"]
    let network : Network := .replies [.answer 201 [] [] true]
    let published := publish arguments [] machine
    let notified := notify arguments' [] .empty network
    CommandLine.readPublish arguments [] = .ok settings ∧
      published.code = 0 ∧
      (published.trace.processes.map (·.arguments)).filter (·.head? = some "push") =
        [["push", "docker.io/proctorscripts/test-w:latest"]] ∧
      published.trace.output = (Publish.run settings machine).trace.output ++
        ["✅ Published 1 image(s)", "  docker.io/proctorscripts/test-w:latest",
          "ℹ️ Skipped 1 directory(ies) without metadata"].flatMap Effect.lineBytes ∧
      Http.Library.plain.Documented ∧
      CommandLine.readNotify arguments' [] = .ok notifying ∧
      notified.trace.requests = [Http.batchSubmission uri []] ∧
      notified.code = 0 ∧
      notified.trace.output = (Notify.run notifying .empty network).trace.output ++
        Effect.lineBytes "Updated proctor metadata" := by
  intro rules machine settings arguments uri notifying arguments' network published notified
  let metadata : Metadata := { members := [("name", .string "w")] }
  let job : JobDirectory := ⟨⟨"./a"⟩, ⟨"./a/m"⟩⟩
  let other : JobDirectory := ⟨⟨"./b"⟩, ⟨"./b/m"⟩⟩
  let image : Image := ⟨"docker.io/proctorscripts/test-w:latest"⟩
  let listing : List Catalog.Entry :=
    [{ directory := job, reading := .ok (some metadata) },
      { directory := other, reading := .ok none }]
  have hsettings : CommandLine.readPublish arguments [] = .ok settings := by
    unfold arguments settings
    rfl
  have hlisting : (Catalog.ofTree machine.files settings.jobs).listing = .ok listing := by
    have hjobs : Catalog.jobDirectories machine.files ⟨"."⟩ "m" = .ok [job, other] := rfl
    have hother : Catalog.readMetadata machine.files other = .ok none := by
      unfold machine other
      rfl
    have hfile : machine.files.resolve job.metadataPath = .ok (.file [['h'], ['a'], ['m']]
        [123, 34, 110, 97, 109, 101, 34, 58, 34, 119, 34, 125]) := by
      unfold machine job
      rfl
    have hobject : Json.read "\x7b\"name\":\"w\"\x7d" = .ok (.object metadata.members) := by
      rw [Json.read, Json.readNested]
      unfold metadata
      simp only [String.reduceToList]
      rfl
    have hreading : Catalog.readMetadata machine.files job = .ok (some metadata) := by
      refine Catalog.readMetadata_eq_some_iff.2
        ⟨_, _, "\x7b\"name\":\"w\"\x7d", hfile, by decide, ?_⟩
      rw [Metadata.read, hobject]
      rfl
    simp only [Catalog.ofTree, settings, hjobs, List.map_cons, List.map_nil, hreading, hother]
    rfl
  have hpublish : (Publish.run settings machine).result = .ok ⟨[image], [other.path]⟩ := by
    have hcheck : settings.check = .ok () := by
      unfold settings
      rfl
    have hlisted : (Catalog.ofTree machine.files settings.jobs).listing =
        ({ listing := .ok listing, remarks := [] } : Catalog).listing := hlisting
    rw [Publish.run_of_check hcheck, (Publish.execute_of_listing_eq hlisted).1]
    unfold settings machine listing job other metadata image
    rfl
  have hcode : published.code = 0 := by
    simp only [published, publish, hsettings, finish_of_ok _ hpublish]
  obtain ⟨-, hsummary, -⟩ := exit_code_sound.1 arguments [] settings machine hsettings
  obtain ⟨images, skipped, -, hpushed, himages, hskipped, houtput⟩ := hsummary hcode
  rw [Catalog.listed_of_ok hlisting] at himages hskipped
  obtain rfl : images = [⟨"docker.io/proctorscripts/test-w:latest"⟩] := himages
  obtain rfl : skipped = 1 := hskipped
  have hnotifying : CommandLine.readNotify arguments' [] = .ok notifying := by
    unfold arguments' notifying uri
    rfl
  obtain ⟨hzero, hupdated, -, -, hsent⟩ := exit_code_sound.2 .plain Http.Library.documented_plain
    arguments' [] notifying .empty network hnotifying
  have hcheck : notifying.check = .ok () := by
    unfold notifying uri
    rfl
  have hempty : (Catalog.ofTree .empty notifying.jobs).listing = .ok [] := by
    unfold notifying uri
    rfl
  have hrequests : notified.trace.requests = [Http.batchSubmission uri []] :=
    hsent [] hcheck rfl hempty (List.forall_mem_nil _) (Http.Library.accepts_plain (by decide) _)
      rfl
  have haccepted : notified.code = 0 := hzero.2 ⟨⟨_, hrequests⟩, rfl⟩
  exact ⟨hsettings, hcode, hpushed, houtput, Http.Library.documented_plain, hnotifying, hrequests,
    haccepted, hupdated haccepted⟩

end Program

end JobImages
