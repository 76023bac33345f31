import JobImages.Proofs.Engine.Commands
import JobImages.Proofs.Notify.Submission
import JobImages.Proofs.Publish.Answers
import JobImages.Proofs.Publish.Transfer

/-!
# Files, programs and networks in place of memory

Publishing and notifying are written for any catalog, engine and coordinator.  Over files, programs
and a network they do what they do in memory: with the listing and its readings written down
beforehand, with an engine that does the calls whose commands succeed, and with a coordinator that
knows its answer.

An engine in memory need not tell why it fails, so that this is the one thing in which a run over
files may differ: it names the command that failed.

## Main definitions

* `Catalog.readings` — the directories of a root in a tree, each with what its file says;
* `Engine.Mirrors` — an engine that does the calls whose commands succeed.

## Main results

* `Publish.run_transfer`, `Notify.run_transfer` — the two programs;
* `wiring_refines_ports` — both at once.
-/

namespace JobImages

/-- The directories of a root in a tree of files, each with what its metadata file says. -/
def Catalog.readings (files : FileTree) (settings : JobSettings) :
    Except Error (List Catalog.Entry) :=
  (jobDirectories files settings.jobsPath settings.metadataFileName).map fun jobs =>
    jobs.map fun job => { directory := job, reading := readMetadata files job }

theorem Catalog.listing_ofTree (files : FileTree) (settings : JobSettings) :
    (Catalog.ofTree files settings).listing = Catalog.readings files settings := by
  rw [ofTree, readings]
  cases jobDirectories files settings.jobsPath settings.metadataFileName with
  | ok jobs => rfl
  | error error => rfl

/-- An engine does each of some calls if the command for it, after those in front, succeeds. -/
def Engine.Mirrors (engine : Engine) (machine : Machine) (name : String)
    (calls : List Engine.Call) : Prop :=
  ∀ before asked after, calls = before ++ asked :: after →
    ((engine.respond before asked).result = .ok () ↔ Engine.Succeeds machine name before asked)

theorem Engine.Mirrors.agreeOn {engine : Engine} {machine : Machine} {name : String}
    {calls : List Engine.Call} (h : engine.Mirrors machine name calls) :
    engine.AgreeOn (Engine.program machine name) calls := by
  intro before asked after hcalls
  rw [Engine.result_respond_eq_ok_iff]
  exact (h before asked after hcalls).symm

/-! ## Publishing -/

namespace Publish

section

variable {settings : PublishSettings} {machine : Machine} {catalog : Catalog} {engine : Engine}

/-- The run over files takes the steps of the run in memory and ends as that one does. -/
theorem run_transfer (hcheck : settings.check = .ok ())
    (hlisting : catalog.listing = Catalog.readings machine.files settings.jobs)
    (hengine : engine.Mirrors machine settings.engine
      (execute settings catalog engine).trace.calls) :
    (run settings machine).trace.steps = (execute settings catalog engine).trace.steps ∧
      (∀ outcome, (run settings machine).result = .ok outcome ↔
        (execute settings catalog engine).result = .ok outcome) ∧
      EndsAlike engine (Engine.program machine settings.engine)
        (execute settings catalog engine).trace.calls
        ((execute settings catalog engine).result.map fun _ => ())
        ((run settings machine).result.map fun _ => ()) := by
  -- The catalog of the tree differs in its remarks at most, and those take no step.
  rw [← Catalog.listing_ofTree] at hlisting
  obtain ⟨hresult, hsteps⟩ :
      (execute settings catalog engine).result =
          (execute settings (Catalog.ofTree machine.files settings.jobs) engine).result ∧
        (execute settings catalog engine).trace.steps =
          (execute settings (Catalog.ofTree machine.files settings.jobs) engine).trace.steps :=
    execute_of_listing_eq hlisting
  have hcalls : (execute settings catalog engine).trace.calls =
      (execute settings (Catalog.ofTree machine.files settings.jobs) engine).trace.calls :=
    congrArg (List.filterMap Step.call?) hsteps
  rw [run_of_check hcheck, hresult, hcalls, hsteps]
  rw [hcalls] at hengine
  have hagree := hengine.agreeOn
  obtain ⟨hsteps', halike⟩ := execute_transfer hagree
  exact ⟨hsteps', result_execute_transfer hagree, halike⟩

/-- A run over files ends with the error of the run in memory, or with that of its last command,
which is echoed. -/
theorem run_error_of_mirrors (hcheck : settings.check = .ok ())
    (hlisting : catalog.listing = Catalog.readings machine.files settings.jobs)
    (hengine : engine.Mirrors machine settings.engine
      (execute settings catalog engine).trace.calls)
    {error : Error} (h : (run settings machine).result = .error error) :
    (execute settings catalog engine).result = .error error ∨
      ∃ before asked failure error',
        (execute settings catalog engine).trace.calls = before ++ [asked] ∧
        (engine.respond before asked).result = .error error' ∧
        (execute settings catalog engine).result = .error error' ∧
        error = .engineFailed (Engine.commandLine settings.engine asked) failure ∧
        .printed (Engine.commandLine settings.engine asked) ∈
          (run settings machine).trace.effects := by
  obtain ⟨hsteps, -, halike⟩ := run_transfer hcheck hlisting hengine
  rw [h] at halike
  generalize hfirst : (execute settings catalog engine).result.map (fun _ => ()) = first at halike
  generalize hsecond : Except.map (fun _ => ()) (Except.error error : Except Error Outcome) =
    second at halike
  cases halike with
  | same ending =>
    rw [← hsecond] at hfirst
    exact .inl (eq_error_of_map_eq_error hfirst)
  | @failing before asked error' error'' hcalls hrefused hfailed =>
    cases hsecond
    -- Both fail at the same call.  Its command is seen, since every answer is.
    obtain ⟨failure, rfl⟩ := Engine.exists_failure_of_respond hfailed
    refine .inr ⟨before, asked, failure, error', hcalls, hrefused,
      eq_error_of_map_eq_error hfirst, rfl, ?_⟩
    obtain ⟨rest, heffects⟩ := Engine.effects_respond machine settings.engine before asked
    have hcalls' : (run settings machine).trace.calls = before ++ asked :: [] :=
      (congrArg (List.filterMap Step.call?) hsteps).trans hcalls
    rw [run_of_check hcheck] at hcalls' ⊢
    refine (execute_answered settings _ _).effects_of_call hcalls' _ ?_
    rw [List.nil_append, heffects]
    exact List.mem_cons_self

/-- The processes of a run over files are the commands of the calls in memory that could be
started. -/
theorem processes_of_mirrors (hcheck : settings.check = .ok ())
    (hlisting : catalog.listing = Catalog.readings machine.files settings.jobs)
    (hengine : engine.Mirrors machine settings.engine
      (execute settings catalog engine).trace.calls) :
    (run settings machine).trace.processes.map
        (fun process => (process.arguments, process.directory)) =
      (execute settings catalog engine).trace.calls.filterMap
        (Engine.command? machine settings.engine) := by
  obtain ⟨hsteps, -⟩ := run_transfer hcheck hlisting hengine
  have hcalls : (run settings machine).trace.calls =
      (execute settings catalog engine).trace.calls :=
    congrArg (List.filterMap Step.call?) hsteps
  rw [run_of_check hcheck] at hcalls ⊢
  rw [processes_execute, Engine.map_processesOf, hcalls]

/-- The command of a call of a run, as its process sees it. -/
theorem command_of_mem_calls {asked : Engine.Call}
    (h : asked ∈ (execute settings catalog engine).trace.calls)
    {command : List String × FileTree.Location}
    (hcommand : Engine.command? machine settings.engine asked = some command) :
    (asked = .login settings.credentials ∧
      command = (["login", "-u", settings.credentials.username, "--password-stdin"],
        machine.files.home)) ∨
      ∃ entry ∈ catalog.listed, ∃ metadata, entry.reading = .ok (some metadata) ∧
        let image := settings.jobs.image metadata.name
        (asked = .build image entry.directory.path ∧
          ∃ place, machine.files.resolveDirectory entry.directory.path = .ok place ∧
            command = (["build", "-t", image.reference, "."], place)) ∨
        (asked = .push image ∧
          command = (["push", image.reference], machine.files.home)) := by
  obtain ⟨arguments, place⟩ := command
  obtain ⟨harguments, hplace⟩ := Engine.command?_eq_some hcommand
  simp only at harguments hplace
  rcases mem_calls_execute h with rfl | ⟨entry, hentry, metadata, hreading, rfl | rfl⟩
  · cases hplace
    exact .inl ⟨rfl, by rw [harguments]; rfl⟩
  · exact .inr ⟨entry, hentry, metadata, hreading,
      .inl ⟨rfl, place, hplace, by rw [harguments]; rfl⟩⟩
  · cases hplace
    exact .inr ⟨entry, hentry, metadata, hreading, .inr ⟨rfl, by rw [harguments]; rfl⟩⟩

end

end Publish

/-! ## Notifying -/

/-- What of an exchange is told to a coordinator in memory. -/
def Http.Exchange.told (exchange : Http.Exchange) : Except Http.Failure (Nat × String) :=
  exchange.result.map fun response => (response.status, response.body)

/-- That coordinator judges as the one behind the exchange. -/
theorem Http.result_answering (exchange : Http.Exchange) (earlier : List (List Metadata))
    (batch : List Metadata) :
    ((Coordinator.answering exchange.told).respond earlier batch).result =
      Http.judge exchange.result := by
  rw [Http.Exchange.told]
  cases exchange.result <;> rfl

namespace Notify

section

variable {settings : NotifySettings} {files : FileTree} {network : Network} {catalog : Catalog}
  {library : Http.Library}

/-- What a run delivers depends on the listing, and how it ends on the listing and the answer to the
batch. -/
theorem execute_transfer {catalog' : Catalog} {coordinator other : Coordinator}
    (hlisting : catalog'.listing = catalog.listing)
    (hanswer : ∀ batch, batch = catalog.listed.filterMap (contribution? settings.jobs) →
      (other.respond [] batch).result = (coordinator.respond [] batch).result) :
    (execute settings catalog' other).result = (execute settings catalog coordinator).result ∧
      (execute settings catalog' other).trace.steps =
        (execute settings catalog coordinator).trace.steps := by
  have hlisted : catalog'.listed = catalog.listed := by rw [Catalog.listed, hlisting]; rfl
  have hfault : catalog'.fault? = catalog.fault? := by rw [Catalog.fault?, hlisting]; rfl
  have hgathered : (gather settings catalog').trace.steps =
      (gather settings catalog).trace.steps := by
    rw [trace_gather, trace_gather, hlisted]
    simp
  cases h : catalog.fault? with
  | some error =>
    rw [execute_of_fault other (hfault.trans h), execute_of_fault coordinator h]
    exact ⟨rfl, hgathered⟩
  | none =>
    rw [execute_of_no_fault other (hfault.trans h), execute_of_no_fault coordinator h, hlisted]
    refine ⟨?_, ?_⟩
    · rw [result_deliver, result_deliver, hanswer _ rfl]
    · obtain ⟨remarks, hfirst⟩ := trace_deliver coordinator
        (catalog.listed.filterMap (contribution? settings.jobs))
      obtain ⟨remarks', hother⟩ := trace_deliver other
        (catalog.listed.filterMap (contribution? settings.jobs))
      rw [Trace.steps_append, Trace.steps_append, hgathered, hfirst, hother]
      simp

/-- A run over files and a network ends as the run in memory whose coordinator is told what comes of
the batch, and takes the same steps. -/
theorem run_transfer (hopening : opening settings library = .ok ())
    (hlisting : catalog.listing = Catalog.readings files settings.jobs) :
    let told := (delivered settings network library catalog.listed).told
    (run settings files network library).result =
        (execute settings catalog (Coordinator.answering told)).result ∧
      (run settings files network library).trace.steps =
        (execute settings catalog (Coordinator.answering told)).trace.steps := by
  intro told
  rw [run_of_opening _ _ _ _ hopening]
  -- The two coordinators need to agree on the one batch that is delivered.
  refine execute_transfer ?_ fun batch hbatch => ?_
  · rw [Catalog.listing_ofTree, hlisting]
  · rw [namedCoordinator, Http.result_respond, Http.result_answering, hbatch]
    rfl

section

variable (settings network) (hdocumented : library.Documented)

include hdocumented

/-- The batch of some directories is not sent, or meets with the server's first reply.  That is up
to the network alone if the client accepts the URL. -/
theorem exists_comesOf_delivered (listing : List Catalog.Entry) :
    let uri := settings.coordinator.uri
    let options := Http.clientOptions settings.coordinator.timeoutSeconds
    let batch := listing.filterMap (contribution? settings.jobs)
    ∃ met : Option Network.Reply,
      (met = none ∨ met = some (network.reply 0)) ∧
      (library.Accepts options uri → met = network.reply? uri 0) ∧
      (network.reaches uri = false → met = none) ∧
      (delivered settings network library listing).ComesOf (Http.batchSubmission uri batch)
        met := by
  intro uri options batch
  cases hreaches : network.reaches uri with
  | false =>
    refine ⟨none, .inl rfl, fun _ => ?_, fun _ => rfl, ?_⟩
    · rw [Network.reply?, hreaches]
      rfl
    · exact Http.comesOf_exchangeAfter_of_not_reaches hdocumented hreaches [] batch
  | true =>
    by_cases haccepts : library.Accepts options uri
    · refine ⟨some (network.reply 0), .inr rfl, fun _ => ?_, fun h => ?_, ?_⟩
      · rw [Network.reply?, if_pos hreaches]
      · cases h
      · exact Http.comesOf_exchangeAfter hdocumented haccepts hreaches [] batch
    · -- A client that does not accept the URL may send this batch all the same.
      rcases Http.comesOf_exchangeAfter_nil hdocumented batch with hnone | hmet
      · exact ⟨none, .inl rfl, fun h => absurd h haccepts, fun _ => rfl, hnone⟩
      · refine ⟨some (network.reply 0), .inr rfl, fun h => absurd h haccepts, fun h => ?_, hmet⟩
        cases h

end

/-- What is told of an exchange is the answer that its request meets with. -/
theorem told_eq_ok_iff {exchange : Http.Exchange} {request : Http.Request}
    {met : Option Network.Reply} (h : exchange.ComesOf request met) (status : Nat) (body : String) :
    exchange.told = .ok (status, body) ↔
      ∃ headers bytes complete, met = some (.answer status headers bytes complete) ∧
        body = (Http.bodyText? bytes complete).getD "<unreadable body>" := by
  have hresult : exchange.told = .ok (status, body) ↔
      ∃ response, exchange.result = .ok response ∧
        (response.status, response.body) = (status, body) := by
    rw [Http.Exchange.told]
    cases exchange.result with
    | ok response => simp [Except.map]
    | error failure => simp [Except.map]
  rw [hresult]
  simp only [h.result_eq_ok_iff, Option.bind_eq_some_iff,
    Network.Reply.response?_eq_some_iff, Prod.mk.injEq]
  constructor
  · rintro ⟨response, ⟨reply, rfl, headers, bytes, complete, rfl, htext⟩, rfl, rfl⟩
    exact ⟨headers, bytes, complete, rfl, by rw [Http.Response.body, htext]⟩
  · rintro ⟨headers, bytes, complete, rfl, rfl⟩
    exact ⟨⟨status, _⟩, ⟨_, rfl, headers, bytes, complete, rfl, rfl⟩, rfl, rfl⟩

/-- What is submitted is sent if the exchange of the batch meets with a reply, and else nothing. -/
theorem requests_run_of_comesOf (hlisting : catalog.listing = Catalog.readings files settings.jobs)
    {met : Option Network.Reply}
    (h : (delivered settings network library catalog.listed).ComesOf
      (Http.batchSubmission settings.coordinator.uri
        (catalog.listed.filterMap (contribution? settings.jobs))) met) :
    let trace := (run settings files network library).trace
    trace.requests = met.elim [] fun _ =>
      trace.batches.map (Http.batchSubmission settings.coordinator.uri) := by
  intro trace
  have hlisted : (Catalog.ofTree files settings.jobs).listed = catalog.listed := by
    rw [Catalog.listed, Catalog.listing_ofTree, ← hlisting]
    rfl
  have hrequests := requests_run settings files network library
  rw [hlisted] at hrequests
  rcases hrequests with ⟨hbatches, hrequests⟩ | ⟨hbatches, hrequests⟩
  · rw [show trace.requests = [] from hrequests, show trace.batches = [] from hbatches]
    cases met <;> rfl
  · rw [show trace.requests = _ from hrequests, show trace.batches = _ from hbatches, h.1]
    cases met <;> rfl

end

end Notify

/-! ## Both -/

/-- **Over files, programs and networks as in memory.**  With the listing and the readings of the
tree, publishing takes the same steps and achieves the same as with any engine that does the calls
whose commands succeed.  When it fails it does so with the same error, or both fail at the last
call, and then the error names the command as it was echoed.  The processes are the calls that
could be started, in order.

Notifying takes the same steps and ends as with a coordinator in memory.  Its request meets with the
first reply of the server, or with none if no server is reached or the client refuses the URL; the
coordinator is told the answer, or that there is none.  What is sent is what is submitted, unless
the request meets with nothing. -/
theorem wiring_refines_ports :
    (∀ (settings : PublishSettings) (machine : Machine) (catalog : Catalog) (engine : Engine),
      settings.check = .ok () →
      catalog.listing = Catalog.readings machine.files settings.jobs →
      let run := Publish.run settings machine
      let port := Publish.execute settings catalog engine
      engine.Mirrors machine settings.engine port.trace.calls →
        run.trace.steps = port.trace.steps ∧
        (∀ outcome, run.result = .ok outcome ↔ port.result = .ok outcome) ∧
        (∀ error, run.result = .error error →
          port.result = .error error ∨
          ∃ before asked failure error',
            port.trace.calls = before ++ [asked] ∧
            (engine.respond before asked).result = .error error' ∧
            port.result = .error error' ∧
            error = .engineFailed (Engine.commandLine settings.engine asked) failure ∧
            .printed (Engine.commandLine settings.engine asked) ∈ run.trace.effects) ∧
        run.trace.processes.map (fun process => (process.arguments, process.directory)) =
          port.trace.calls.filterMap (Engine.command? machine settings.engine) ∧
        ∀ asked ∈ port.trace.calls, ∀ command,
          Engine.command? machine settings.engine asked = some command →
          (asked = .login settings.credentials ∧
            command = (["login", "-u", settings.credentials.username, "--password-stdin"],
              machine.files.home)) ∨
          ∃ entry ∈ catalog.listed, ∃ metadata, entry.reading = .ok (some metadata) ∧
            let image := settings.jobs.image metadata.name
            (asked = .build image entry.directory.path ∧
              ∃ place, machine.files.resolveDirectory entry.directory.path = .ok place ∧
                command = (["build", "-t", image.reference, "."], place)) ∨
            (asked = .push image ∧
              command = (["push", image.reference], machine.files.home))) ∧
    (∀ (settings : NotifySettings) (files : FileTree) (network : Network) (library : Http.Library)
      (catalog : Catalog),
      let uri := settings.coordinator.uri
      let options := Http.clientOptions settings.coordinator.timeoutSeconds
      library.Documented →
      settings.check = .ok () →
      library.create options = .ok () →
      catalog.listing = Catalog.readings files settings.jobs →
      let run := Notify.run settings files network library
      ∃ (met : Option Network.Reply) (outcome : Except Http.Failure (Nat × String)),
        (met = none ∨ met = some (network.reply 0)) ∧
        (library.Accepts options uri → met = network.reply? uri 0) ∧
        (network.reaches uri = false → met = none) ∧
        (∀ status body, outcome = .ok (status, body) ↔
          ∃ headers bytes complete, met = some (.answer status headers bytes complete) ∧
            body = (Http.bodyText? bytes complete).getD "<unreadable body>") ∧
        let port := Notify.execute settings catalog (Coordinator.answering outcome)
        run.result = port.result ∧
          run.trace.steps = port.trace.steps ∧
          run.trace.batches = port.trace.batches ∧
          run.trace.requests = met.elim [] fun _ =>
            port.trace.batches.map (Http.batchSubmission uri)) := by
  refine ⟨fun settings machine catalog engine hcheck hlisting => ?_, ?_⟩
  · intro run port hengine
    obtain ⟨hsteps, hresult, -⟩ := Publish.run_transfer hcheck hlisting hengine
    refine ⟨hsteps, hresult, ?_, Publish.processes_of_mirrors hcheck hlisting hengine, ?_⟩
    · intro error herror
      exact Publish.run_error_of_mirrors hcheck hlisting hengine herror
    · intro asked hasked command hcommand
      exact Publish.command_of_mem_calls hasked hcommand
  · intro settings files network library catalog uri options hdocumented hcheck hcreate hlisting run
    obtain ⟨met, hmet, haccepted, hunreached, hcomes⟩ :=
      Notify.exists_comesOf_delivered settings network hdocumented catalog.listed
    let exchange := Notify.delivered settings network library catalog.listed
    refine ⟨met, exchange.told, hmet, haccepted, hunreached, Notify.told_eq_ok_iff hcomes, ?_⟩
    intro port
    obtain ⟨hresult, hsteps⟩ : run.result = port.result ∧ run.trace.steps = port.trace.steps :=
      Notify.run_transfer (Notify.opening_eq_ok_iff.2 ⟨hcheck, hcreate⟩) hlisting
    have hbatches : run.trace.batches = port.trace.batches :=
      congrArg (List.filterMap Step.batch?) hsteps
    refine ⟨hresult, hsteps, hbatches, ?_⟩
    rw [← hbatches]
    exact Notify.requests_run_of_comesOf hlisting hcomes

theorem Engine.mirrors_pair {engine : Engine} {machine : Machine} {name : String}
    {first second : Engine.Call}
    (hfirst : (engine.respond [] first).result = .ok () ↔ Engine.Succeeds machine name [] first)
    (hsecond : (engine.respond [first] second).result = .ok () ↔
      Engine.Succeeds machine name [first] second) :
    engine.Mirrors machine name [first, second] := by
  intro before asked after h
  match before, h with
  | [], h =>
    obtain ⟨rfl, -⟩ := List.cons.inj h
    exact hfirst
  | [_], h =>
    obtain ⟨rfl, hrest⟩ := List.cons.inj h
    obtain ⟨rfl, -⟩ := List.cons.inj hrest
    exact hsecond
  | _ :: _ :: _, h => simp at h

/-- A build whose process exits with code three is one that an engine in memory refuses, and a batch
that is answered with a redirection is one that a coordinator in memory rejects. -/
theorem wiring_refines_ports_of_refusals :
    let machine : Machine :=
      { files :=
          { nodes := [([['h']], .directory), ([['h'], ['a']], .directory),
              ([['h'], ['a'], ['m']], .file [123, 34, 110, 97, 109, 101, 34, 58, 34, 119, 34, 125]),
              ([['e']], .file [])]
            distinct := by decide
            home := [['h']] }
        installed := []
        notExecutable := []
        fileFault? := fun _ => none
        processes := [{}, { ending := .exited 3 }] }
    let publishing : PublishSettings :=
      { jobs := { jobsPath := ⟨"."⟩, teamName := "t", registry := "r", metadataFileName := "m" }
        credentials := ⟨"u", "p"⟩
        engine := "/e" }
    let catalog : Catalog :=
      { listing := .ok
          [{ directory := ⟨⟨"./a"⟩, ⟨"./a/m"⟩⟩
             reading := .ok (some { members := [("name", .string "w")] }) }]
        remarks := [] }
    let engine := Engine.refusing fun
      | .build _ _ => some "no"
      | _ => none
    let uri : Url :=
      { scheme := "http".toList
        authority := some
          { username := [], password := [], host := .named "proctord".toList, port := none }
        route := .segments [[]]
        query := none
        fragment := none }
    let notifying : NotifySettings :=
      { jobs := { jobsPath := ⟨"/"⟩ }, coordinator := { uri }, settleDelay := 0 }
    let network : Network := .replies [.answer 307 [("location", "/elsewhere")] [] true]
    publishing.check = .ok () ∧
      catalog.listing = Catalog.readings machine.files publishing.jobs ∧
      engine.Mirrors machine publishing.engine
        (Publish.execute publishing catalog engine).trace.calls ∧
      (Publish.run publishing machine).trace.processes.map
          (fun process => (process.arguments, process.directory)) =
        [(["login", "-u", "u", "--password-stdin"], [['h']]),
          (["build", "-t", "r/t-w:latest", "."], [['h'], ['a']])] ∧
      Http.Library.plain.Documented ∧
      notifying.check = .ok () ∧
      (Notify.run notifying .empty network).trace.requests = [Http.batchSubmission uri []] ∧
      (Notify.run notifying .empty network).result = .error (.rejected 307 "") := by
  intro machine publishing catalog engine uri notifying network
  let job : JobDirectory := ⟨⟨"./a"⟩, ⟨"./a/m"⟩⟩
  let metadata : Metadata := { members := [("name", .string "w")] }
  let login := Engine.Call.login ⟨"u", "p"⟩
  let build := Engine.Call.build ⟨"r/t-w:latest"⟩ ⟨"./a"⟩
  have hreadings : catalog.listing = Catalog.readings machine.files publishing.jobs := by
    have hjobs : Catalog.jobDirectories machine.files ⟨"."⟩ "m" = .ok [job] := rfl
    have hfile : machine.files.readFile job.metadataPath =
      .ok [123, 34, 110, 97, 109, 101, 34, 58, 34, 119, 34, 125] := by
      unfold machine job
      rfl
    have htext : Text.ofBytes? [123, 34, 110, 97, 109, 101, 34, 58, 34, 119, 34, 125] =
        some "\x7b\"name\":\"w\"\x7d" := by
      decide
    have hobject : Json.read "\x7b\"name\":\"w\"\x7d" = .ok (.object metadata.members) := by
      rw [Json.read, Json.readNested]
      unfold metadata
      simp only [String.reduceToList]
      rfl
    have hmetadata : Metadata.read job.metadataPath "\x7b\"name\":\"w\"\x7d" = .ok metadata := by
      rw [Metadata.read, hobject]
      rfl
    have hreading : Catalog.readMetadata machine.files job =
        .ok (some metadata) := by
      simp only [Catalog.readMetadata, FileTree.readText, hfile, htext, hmetadata]
    show _ = (Catalog.jobDirectories machine.files ⟨"."⟩ "m").map _
    rw [hjobs]
    simp only [Except.map, List.map_cons, List.map_nil, hreading]
    rfl
  have hcalls : (Publish.execute publishing catalog engine).trace.calls = [login, build] := rfl
  have hmirrors : engine.Mirrors machine publishing.engine
      (Publish.execute publishing catalog engine).trace.calls := by
    rw [hcalls]
    refine Engine.mirrors_pair ?_ ?_
    · have hstart : Engine.start machine publishing.engine login = .ok [['h']] := by
        unfold machine publishing
        rfl
      exact iff_of_true rfl ⟨⟨_, hstart⟩, rfl⟩
    · have hbehaviour : (Engine.nextBehaviour machine publishing.engine [login]).ending =
          .exited 3 := by
        unfold machine publishing
        rfl
      refine iff_of_false (fun h => ?_) fun h => ?_
      · cases h
      · cases hbehaviour.symm.trans h.2
  have hcheck : publishing.check = .ok () := by
    unfold publishing
    rfl
  have hprocesses : (Publish.run publishing machine).trace.processes.map
        (fun process => (process.arguments, process.directory)) =
      [(["login", "-u", "u", "--password-stdin"], [['h']]),
        (["build", "-t", "r/t-w:latest", "."], [['h'], ['a']])] := by
    obtain ⟨-, -, -, hprocesses, -⟩ :=
      wiring_refines_ports.1 publishing machine catalog engine hcheck hreadings hmirrors
    rw [hprocesses, hcalls]
    unfold machine publishing
    rfl
  have hnotifying : notifying.check = .ok () := by
    unfold notifying uri
    rfl
  obtain ⟨met, outcome, -, haccepted, -, houtcome, hresult, -, -, hrequests⟩ :=
    wiring_refines_ports.2 notifying .empty network .plain { listing := .ok [], remarks := [] }
      Http.Library.documented_plain hnotifying rfl (by unfold notifying uri; rfl)
  -- The client accepts the URL, so that the request meets with the redirection.
  obtain rfl := haccepted (Http.Library.accepts_plain (by decide) _)
  obtain rfl : outcome = .ok (307, "") :=
    (houtcome 307 "").2 ⟨[("location", "/elsewhere")], [], true, rfl, by decide⟩
  refine ⟨hcheck, hreadings, hmirrors, hprocesses, Http.Library.documented_plain, hnotifying,
    hrequests.trans rfl, hresult.trans ?_⟩
  unfold notifying
  rfl

end JobImages
