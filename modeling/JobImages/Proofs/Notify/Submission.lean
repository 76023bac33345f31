import JobImages.Proofs.Http.Exchange
import JobImages.Proofs.Notify.Batch

/-!
# Submitting a batch

A run that notifies falls into two parts, once its settings are accepted and a client is made.  The
first part gathers the batch: it waits, lists and reads, and nobody else hears of it.  The second
delivers the batch, and begins only if the first came to its end.  So the coordinator gets the whole
batch or nothing at all.

## Main definitions

* `Trace.beforeSubmission` — what happens before the first submission;
* `Notify.opening` — whether a run begins;
* `Notify.gather`, `Notify.deliver` — the two parts of a run.

## Main results

* `Notify.execute_of_fault`, `Notify.execute_of_no_fault` — a run is its first part, or both;
* `Notify.run_all_or_nothing` — the law of all runs over files and a network.
-/

namespace JobImages

/-! ## Before the submission -/

/-- The batch that an event submits, if it submits one. -/
def Event.batch? (event : Event) : Option (List Metadata) :=
  event.step?.bind Step.batch?

namespace Trace

/-- What happens before the first submission. -/
def beforeSubmission (trace : Trace) : Trace :=
  trace.takeWhile (·.batch?.isNone)

theorem batches_eq_filterMap (trace : Trace) : trace.batches = trace.filterMap Event.batch? := by
  rw [batches, steps, List.filterMap_filterMap]
  rfl

/-- All that happens in a trace without submissions happens before one. -/
theorem beforeSubmission_append {trace : Trace} (rest : Trace) (h : trace.batches = []) :
    beforeSubmission (trace ++ rest) = trace ++ beforeSubmission rest := by
  have hquiet : ∀ event ∈ trace, event.batch?.isNone := by
    intro event hevent
    rw [batches_eq_filterMap] at h
    rw [List.filterMap_eq_nil_iff.1 h event hevent]
    rfl
  exact List.takeWhile_append_of_pos hquiet

theorem beforeSubmission_eq_self {trace : Trace} (h : trace.batches = []) :
    trace.beforeSubmission = trace := by
  have hself := beforeSubmission_append [] h
  rw [List.append_nil] at hself
  exact hself.trans (List.append_nil trace)

end Trace

namespace Notify

/-! ## Gathering -/

/-- The part of a run that gathers the batch. -/
def gather (settings : NotifySettings) (catalog : Catalog) : Run (List Metadata) := do
  settle settings.settleDelay
  collect settings.jobs catalog

/-- What is done during the pause. -/
def pauseEffects (milliseconds : Nat) : List Effect :=
  if milliseconds = 0 then []
  else [.logged (waitingRemark milliseconds), .waited milliseconds]

theorem settle_eq_emit (milliseconds : Nat) :
    settle milliseconds = .emit (pauseEffects milliseconds) := by
  by_cases h : milliseconds = 0
  · rw [settle, pauseEffects, if_pos h, if_pos h]
    rfl
  · rw [settle, pauseEffects, if_neg h, if_neg h]

section Gather

variable (settings : NotifySettings) (catalog : Catalog)

/-- Gathering lists the directories, in silence, and goes through them. -/
theorem trace_gather :
    (gather settings catalog).trace =
      (pauseEffects settings.settleDelay).map .effect ++
        .step .list :: ((catalog.remarks.map Effect.logged).map .effect ++
          (entries settings.jobs catalog.listed).trace) := by
  rw [gather, settle_eq_emit, Run.emit_bind, collect, Run.take_bind, Run.emit_bind]
  -- A catalog that cannot be listed has no directories to go through.
  cases hlisting : catalog.listing with
  | ok listing =>
    rw [Catalog.listed_of_ok hlisting]
    rfl
  | error error =>
    rw [Catalog.listed_of_error hlisting]
    rfl

/-- The batch is complete, unless the catalog has an error somewhere. -/
theorem result_gather :
    (gather settings catalog).result =
      match catalog.fault? with
      | none => .ok (catalog.listed.filterMap (contribution? settings.jobs))
      | some error => .error error := by
  rw [gather, settle_eq_emit, Run.emit_bind]
  exact result_collect settings.jobs catalog

/-- Gathering submits nothing. -/
theorem batches_gather : (gather settings catalog).trace.batches = [] := by
  have hentries : (entries settings.jobs catalog.listed).trace.batches = [] := by
    rw [Trace.batches, steps_entries, List.filterMap_map]
    exact List.filterMap_eq_nil_iff.2 fun entry _ => rfl
  rw [trace_gather, Trace.batches_append, Trace.batches_map_effect, List.nil_append]
  show Trace.batches ((catalog.remarks.map Effect.logged).map .effect ++ _) = []
  rw [Trace.batches_append, Trace.batches_map_effect, hentries]
  rfl

theorem requests_pauseEffects (milliseconds : Nat) :
    (pauseEffects milliseconds).filterMap Effect.request? = [] := by
  by_cases h : milliseconds = 0
  · rw [pauseEffects, if_pos h]
    rfl
  · rw [pauseEffects, if_neg h]
    rfl

theorem output_pauseEffects (milliseconds : Nat) :
    (pauseEffects milliseconds).flatMap Effect.output = [] := by
  by_cases h : milliseconds = 0
  · rw [pauseEffects, if_pos h]
    rfl
  · rw [pauseEffects, if_neg h]
    rfl

/-- Gathering sends nothing. -/
theorem requests_gather : (gather settings catalog).trace.requests = [] := by
  simp [trace_gather, requests_pauseEffects, requests_entries]

/-- While the batch is gathered, one line is printed for each directory that is read. -/
theorem output_gather :
    (gather settings catalog).trace.output =
      (Catalog.reached catalog.listed).flatMap fun entry =>
        Effect.lineBytes (readLine entry.directory) := by
  simp [trace_gather, output_pauseEffects, output_entries]

end Gather

/-! ## Delivering -/

/-- The part of a run that delivers the batch. -/
def deliver (coordinator : Coordinator) (batch : List Metadata) : Run Nat := do
  coordinator.submit [] batch
  Run.emit [.logged (submittedRemark batch.length)]
  pure batch.length

theorem execute_eq_bind (settings : NotifySettings) (catalog : Catalog)
    (coordinator : Coordinator) :
    execute settings catalog coordinator =
      (gather settings catalog >>= fun batch => deliver coordinator batch) := by
  rw [gather, bind_assoc]
  rfl

section Deliver

variable (coordinator : Coordinator) (batch : List Metadata)

/-- Delivering is one submission. -/
theorem trace_deliver :
    ∃ remarks : List Log.Record,
      (deliver coordinator batch).trace =
        .step (.submit batch) :: ((coordinator.respond [] batch).effects.map .effect ++
          (remarks.map Effect.logged).map .effect) := by
  rw [deliver, Coordinator.submit]
  cases hresult : (coordinator.respond [] batch).result with
  | ok value =>
    refine ⟨[submittedRemark batch.length], ?_⟩
    rw [Run.bind_of_ok _ hresult]
    rfl
  | error error =>
    refine ⟨[], ?_⟩
    rw [Run.bind_of_error _ hresult]
    simp [Run.turnTo]

/-- A batch is delivered if the coordinator takes it. -/
theorem result_deliver :
    (deliver coordinator batch).result =
      (coordinator.respond [] batch).result.map fun _ => batch.length := by
  rw [deliver, Coordinator.submit]
  cases hresult : (coordinator.respond [] batch).result with
  | ok value =>
    rw [Run.result_bind_of_ok _ hresult]
    rfl
  | error error =>
    rw [Run.result_bind_of_error _ hresult]
    rfl

theorem batches_deliver : (deliver coordinator batch).trace.batches = [batch] := by
  obtain ⟨remarks, htrace⟩ := trace_deliver coordinator batch
  rw [htrace]
  simp [Trace.batches, Step.batch?]

theorem requests_deliver :
    (deliver coordinator batch).trace.requests =
      (coordinator.respond [] batch).effects.filterMap Effect.request? := by
  obtain ⟨remarks, htrace⟩ := trace_deliver coordinator batch
  rw [htrace]
  simp

/-- A delivery begins with the submission. -/
theorem beforeSubmission_deliver : (deliver coordinator batch).trace.beforeSubmission = [] := by
  obtain ⟨remarks, htrace⟩ := trace_deliver coordinator batch
  rw [htrace]
  rfl

end Deliver

/-! ## The two parts of a run -/

section Execute

variable {settings : NotifySettings} {catalog : Catalog} (coordinator : Coordinator)

/-- If the catalog has an error somewhere, the run ends with it and delivers nothing. -/
theorem execute_of_fault {error : Error} (h : catalog.fault? = some error) :
    execute settings catalog coordinator =
      { trace := (gather settings catalog).trace, result := .error error } := by
  -- Gathering ends with the error, and then nothing is delivered.
  have hresult := result_gather settings catalog
  rw [h] at hresult
  rw [execute_eq_bind, Run.bind_of_error _ hresult]

/-- If the catalog has no error, the whole batch is delivered. -/
theorem execute_of_no_fault (h : catalog.fault? = none) :
    let delivery := deliver coordinator (catalog.listed.filterMap (contribution? settings.jobs))
    execute settings catalog coordinator =
      { trace := (gather settings catalog).trace ++ delivery.trace
        result := delivery.result } := by
  have hresult := result_gather settings catalog
  rw [h] at hresult
  rw [execute_eq_bind, Run.bind_of_ok _ hresult]

end Execute

/-! ## The law of a run -/

/-- Whether a run begins: its settings are accepted, and a client can be made. -/
def opening (settings : NotifySettings) (library : Http.Library) : Except Error Unit := do
  settings.check.mapError .settings
  Http.created settings.coordinator.timeoutSeconds library

section Opening

variable {settings : NotifySettings} {library : Http.Library}

theorem opening_of_check_error {problem : SettingsProblem} (h : settings.check = .error problem) :
    opening settings library = .error (.settings problem) := by
  rw [opening, h]
  rfl

theorem opening_of_check (h : settings.check = .ok ()) :
    opening settings library = Http.created settings.coordinator.timeoutSeconds library := by
  rw [opening, h]
  rfl

theorem opening_of_create_error {reason : String} (hcheck : settings.check = .ok ())
    (h : library.create (Http.clientOptions settings.coordinator.timeoutSeconds) =
      .error reason) :
    opening settings library = .error (.settings (.clientFailed reason)) := by
  rw [opening_of_check hcheck, Http.created, h]
  rfl

theorem opening_eq_ok_iff :
    opening settings library = .ok () ↔
      settings.check = .ok () ∧
        library.create (Http.clientOptions settings.coordinator.timeoutSeconds) = .ok () := by
  cases hcheck : settings.check with
  | error problem => simp [opening_of_check_error hcheck]
  | ok value =>
    rw [opening_of_check hcheck, Http.created]
    cases library.create (Http.clientOptions settings.coordinator.timeoutSeconds) with
    | error reason =>
      constructor
      · intro h
        cases h
      · rintro ⟨-, h⟩
        cases h
    | ok value => exact iff_of_true rfl ⟨rfl, rfl⟩

end Opening

section Law

variable (settings : NotifySettings) (files : FileTree) (network : Network)
  (library : Http.Library)

/-- The coordinator that the settings name. -/
def namedCoordinator : Coordinator :=
  Http.coordinator network settings.coordinator.uri settings.coordinator.timeoutSeconds library

/-- The delivery of some directories' batch to the coordinator that the settings name. -/
def delivery (listing : List Catalog.Entry) : Run Nat :=
  deliver (namedCoordinator settings network library)
    (listing.filterMap (contribution? settings.jobs))

/-- What comes of the batch that is delivered. -/
def delivered (listing : List Catalog.Entry) : Http.Exchange :=
  Http.exchangeAfter network settings.coordinator.uri settings.coordinator.timeoutSeconds library []
    (listing.filterMap (contribution? settings.jobs))

theorem run_eq_bind :
    run settings files network library = (do
      Run.ofExcept (opening settings library)
      execute settings (Catalog.ofTree files settings.jobs)
        (namedCoordinator settings network library)) := by
  rw [run]
  -- If the settings are refused, no client is made.
  cases hcheck : settings.check with
  | error problem =>
    rw [opening_of_check_error hcheck]
    rfl
  | ok value =>
    rw [opening_of_check hcheck]
    rfl

theorem run_of_opening (h : opening settings library = .ok ()) :
    run settings files network library =
      execute settings (Catalog.ofTree files settings.jobs)
        (namedCoordinator settings network library) := by
  rw [run_eq_bind, h, Run.ofExcept_ok_bind]

theorem run_of_opening_error {error : Error} (h : opening settings library = .error error) :
    run settings files network library = { trace := [], result := .error error } := by
  rw [run_eq_bind, h, Run.ofExcept_error_bind]
  rfl

/-- A run does nothing, or gathers and ends with an error, or gathers and delivers. -/
theorem run_cases :
    let catalog := Catalog.ofTree files settings.jobs
    let gathered := (gather settings catalog).trace
    let delivery := delivery settings network library catalog.listed
    (∃ error, opening settings library = .error error ∧
      run settings files network library = { trace := [], result := .error error }) ∨
    (opening settings library = .ok () ∧ ∃ error, catalog.fault? = some error ∧
      run settings files network library = { trace := gathered, result := .error error }) ∨
    (opening settings library = .ok () ∧ catalog.fault? = none ∧
      run settings files network library =
        { trace := gathered ++ delivery.trace, result := delivery.result }) := by
  intro catalog gathered delivery
  cases hopening : opening settings library with
  | error error => exact .inl ⟨error, rfl, run_of_opening_error _ _ _ _ hopening⟩
  | ok value =>
    right
    rw [run_of_opening _ _ _ _ hopening]
    cases hfault : catalog.fault? with
    | some error => exact .inl ⟨rfl, error, rfl, execute_of_fault _ hfault⟩
    | none => exact .inr ⟨rfl, rfl, execute_of_no_fault _ hfault⟩

section Delivery

variable (listing : List Catalog.Entry)

theorem batches_delivery :
    (delivery settings network library listing).trace.batches =
      [listing.filterMap (contribution? settings.jobs)] :=
  batches_deliver _ _

theorem requests_delivery :
    (delivery settings network library listing).trace.requests =
      (delivered settings network library listing).sent := by
  rw [delivery, requests_deliver, namedCoordinator, Http.requests_respond]
  rfl

theorem result_delivery :
    (delivery settings network library listing).result =
      (Http.judge (delivered settings network library listing).result).map fun _ =>
        (listing.filterMap (contribution? settings.jobs)).length := by
  rw [delivery, result_deliver, namedCoordinator, Http.result_respond]
  rfl

/-- A delivery succeeds if its request was sent and answered with the status that accepts. -/
theorem result_delivery_eq_ok_iff (hdocumented : library.Documented) (count : Nat) :
    let batch := listing.filterMap (contribution? settings.jobs)
    (delivery settings network library listing).result = .ok count ↔
      (delivery settings network library listing).trace.requests =
          [Http.batchSubmission settings.coordinator.uri batch] ∧
        network.status? 0 = some Coordinator.accepted ∧ count = batch.length := by
  intro batch
  have hok : Http.judge (delivered settings network library listing).result = .ok () ↔
      (delivered settings network library listing).sent =
          [Http.batchSubmission settings.coordinator.uri batch] ∧
        network.status? 0 = some Coordinator.accepted :=
    Http.judge_exchangeAfter_eq_ok_iff hdocumented batch
  rw [requests_delivery, result_delivery, ← and_assoc, ← hok]
  cases Http.judge (delivered settings network library listing).result with
  | ok value =>
    constructor
    · intro h
      cases h
      exact ⟨rfl, rfl⟩
    · rintro ⟨-, rfl⟩
      rfl
  | error error =>
    constructor
    · intro h
      cases h
    · rintro ⟨h, -⟩
      cases h

end Delivery

/-- The batch is submitted if the run begins and the catalog has no error. -/
theorem mem_batches_run_iff (batch : List Metadata) :
    batch ∈ (run settings files network library).trace.batches ↔
      opening settings library = .ok () ∧ (Catalog.ofTree files settings.jobs).fault? = none ∧
        batch = (Catalog.ofTree files settings.jobs).listed.filterMap
          (contribution? settings.jobs) := by
  rcases run_cases settings files network library with
    ⟨error, hopening, hrun⟩ | ⟨hopening, error, hfault, hrun⟩ | ⟨hopening, hfault, hrun⟩
  · simp [hrun, hopening, Trace.batches]
  · simp [hrun, hopening, hfault, batches_gather]
  · simp [hrun, hopening, hfault, batches_gather, batches_delivery]

/-- A run submits one batch at most, and sends what the client makes of it. -/
theorem requests_run :
    let trace := (run settings files network library).trace
    let listing := (Catalog.ofTree files settings.jobs).listed
    (trace.batches = [] ∧ trace.requests = []) ∨
      trace.batches = [listing.filterMap (contribution? settings.jobs)] ∧
        trace.requests = (delivered settings network library listing).sent := by
  intro trace listing
  rcases run_cases settings files network library with
    ⟨error, hopening, hrun⟩ | ⟨hopening, error, hfault, hrun⟩ | ⟨hopening, hfault, hrun⟩
  · left
    simp only [trace, hrun]
    exact ⟨rfl, rfl⟩
  · left
    simp only [trace, hrun]
    exact ⟨batches_gather settings _, requests_gather settings _⟩
  · right
    simp only [trace, hrun]
    rw [Trace.batches_append, batches_gather, List.nil_append, batches_delivery,
      Trace.requests_append, requests_gather, List.nil_append, requests_delivery]
    exact ⟨rfl, rfl⟩

/-- If the client accepts the URL and a server is reached there, what is submitted is sent. -/
theorem requests_run_of_accepts (hdocumented : library.Documented)
    (haccepts : library.Accepts (Http.clientOptions settings.coordinator.timeoutSeconds)
      settings.coordinator.uri)
    (hreaches : network.reaches settings.coordinator.uri = true) :
    (run settings files network library).trace.requests =
      (run settings files network library).trace.batches.map
        (Http.batchSubmission settings.coordinator.uri) := by
  rcases requests_run settings files network library with ⟨hbatches, hsent⟩ | ⟨hbatches, hsent⟩
  · rw [hbatches, hsent]
    rfl
  · rw [hbatches, hsent]
    exact (Http.comesOf_exchangeAfter hdocumented haccepts hreaches [] _).1

/-- If moreover the run begins and the catalog has no error, exactly its batch is sent. -/
theorem requests_run_of_no_fault (hdocumented : library.Documented)
    (haccepts : library.Accepts (Http.clientOptions settings.coordinator.timeoutSeconds)
      settings.coordinator.uri)
    (hreaches : network.reaches settings.coordinator.uri = true)
    (hopening : opening settings library = .ok ())
    (hfault : (Catalog.ofTree files settings.jobs).fault? = none) :
    (run settings files network library).trace.requests =
      [Http.batchSubmission settings.coordinator.uri
        ((Catalog.ofTree files settings.jobs).listed.filterMap (contribution? settings.jobs))] := by
  have hbatch := (mem_batches_run_iff settings files network library _).2 ⟨hopening, hfault, rfl⟩
  rw [requests_run_of_accepts settings files network library hdocumented haccepts hreaches]
  rcases requests_run settings files network library with ⟨hnone, -⟩ | ⟨hone, -⟩
  · rw [hnone] at hbatch
    cases hbatch
  · rw [hone]
    rfl

/-- An error of the catalog ends the run, and nothing is submitted. -/
theorem run_of_fault {error : Error} (hopening : opening settings library = .ok ())
    (h : (Catalog.ofTree files settings.jobs).fault? = some error) :
    (run settings files network library).result = .error error ∧
      (run settings files network library).trace.batches = [] ∧
      (run settings files network library).trace.requests = [] := by
  rcases run_cases settings files network library with
    ⟨cause, herror, -⟩ | ⟨-, cause, hfault, hrun⟩ | ⟨-, hfault, -⟩
  · cases hopening.symm.trans herror
  · cases h.symm.trans hfault
    rw [hrun]
    exact ⟨rfl, batches_gather settings _, requests_gather settings _⟩
  · cases h.symm.trans hfault

/-- A run succeeds if its batch was sent and answered with the status that accepts. -/
theorem result_run_eq_ok_iff (hdocumented : library.Documented) (count : Nat) :
    (run settings files network library).result = .ok count ↔
      ∃ batch, (run settings files network library).trace.batches = [batch] ∧
        (run settings files network library).trace.requests =
          [Http.batchSubmission settings.coordinator.uri batch] ∧
        network.status? 0 = some Coordinator.accepted ∧ count = batch.length := by
  rcases run_cases settings files network library with
    ⟨error, hopening, hrun⟩ | ⟨hopening, error, hfault, hrun⟩ | ⟨hopening, hfault, hrun⟩
  · simp [hrun, Trace.batches]
  · simp [hrun, batches_gather]
  · rw [hrun]
    simp only [Trace.batches_append, Trace.requests_append, batches_gather, requests_gather,
      List.nil_append, result_delivery_eq_ok_iff _ _ _ _ hdocumented]
    have hbatches := batches_delivery settings network library
      (Catalog.ofTree files settings.jobs).listed
    constructor
    · intro h
      exact ⟨_, hbatches, h⟩
    · rintro ⟨batch, hbatch, h⟩
      rw [hbatches] at hbatch
      cases hbatch
      exact h

/-- Before the submission a line is printed for each directory up to the first that cannot be
read, and nothing else. -/
theorem output_beforeSubmission_run (hopening : opening settings library = .ok ()) :
    (run settings files network library).trace.beforeSubmission.output =
      (Catalog.reached (Catalog.ofTree files settings.jobs).listed).flatMap fun entry =>
        Effect.lineBytes (readLine entry.directory) := by
  rw [← output_gather settings]
  rcases run_cases settings files network library with
    ⟨cause, herror, -⟩ | ⟨-, error, -, hrun⟩ | ⟨-, -, hrun⟩
  · cases hopening.symm.trans herror
  · rw [hrun, Trace.beforeSubmission_eq_self (batches_gather settings _)]
  · rw [hrun, Trace.beforeSubmission_append _ (batches_gather settings _), delivery,
      beforeSubmission_deliver, List.append_nil]

end Law

/-- **All or nothing.**  A run submits one batch at most, in one request at most, and does so only
if its settings are accepted, a client can be made, its root is listed and every directory is read:
then the batch has one entry for each directory with metadata, in order, and may be empty.  If the
client accepts the URL and a server is reached there, what is submitted is sent.  Otherwise the run
ends with what went wrong first, and nothing is submitted.  The run succeeds if the request was sent
and answered with the status that accepts.  Until the submission it prints one line for each
directory that it reads, and nothing else. -/
theorem run_all_or_nothing {library : Http.Library} (hdocumented : library.Documented)
    (settings : NotifySettings) (files : FileTree) (network : Network) :
    let catalog := Catalog.ofTree files settings.jobs
    let uri := settings.coordinator.uri
    let options := Http.clientOptions settings.coordinator.timeoutSeconds
    let ending := (run settings files network library).result
    let trace := (run settings files network library).trace
    let request := Http.batchSubmission uri
    trace.requests.length ≤ 1 ∧
      trace.batches.length ≤ 1 ∧
      (∀ sent ∈ trace.requests, ∃ batch ∈ trace.batches, sent = request batch) ∧
      (∀ batch, batch ∈ trace.batches ↔
        settings.check = .ok () ∧ library.create options = .ok () ∧
          ∃ listing, catalog.listing = .ok listing ∧
            (∀ entry ∈ listing, ∃ reading, entry.reading = .ok reading) ∧
            batch = listing.filterMap fun entry =>
              entry.metadata?.map fun metadata =>
                metadata.withImage (settings.jobs.image metadata.name)) ∧
      (library.Accepts options uri → network.reaches uri = true →
        ∀ batch ∈ trace.batches, trace.requests = [request batch]) ∧
      (request []).body = "[]" ∧
      (∀ problem, settings.check = .error problem →
        ending = .error (.settings problem) ∧ trace = []) ∧
      (∀ reason, settings.check = .ok () → library.create options = .error reason →
        ending = .error (.settings (.clientFailed reason)) ∧ trace = []) ∧
      (settings.check = .ok () → library.create options = .ok () →
        (∀ error, catalog.listing = .error error →
          ending = .error error ∧ trace.batches = [] ∧ trace.requests = []) ∧
        (∀ before entry after error, catalog.listing = .ok (before ++ entry :: after) →
          (∀ other ∈ before, ∃ reading, other.reading = .ok reading) →
          entry.reading = .error error →
            ending = .error error ∧ trace.batches = [] ∧ trace.requests = []) ∧
        trace.beforeSubmission.output =
          (Catalog.reached catalog.listed).flatMap fun entry =>
            Effect.lineBytes ("Processing " ++ entry.directory.metadataPath.text)) ∧
      (∀ count, ending = .ok count ↔
        ∃ batch, trace.batches = [batch] ∧ trace.requests = [request batch] ∧
          network.status? 0 = some Coordinator.accepted ∧ count = batch.length) := by
  intro catalog uri options ending trace request
  have hsent : (trace.batches = [] ∧ trace.requests = []) ∨
      ∃ batch, trace.batches = [batch] ∧
        (trace.requests = [] ∨ trace.requests = [request batch]) := by
    refine (requests_run settings files network library).imp_right ?_
    rintro ⟨hbatches, hrequests⟩
    refine ⟨_, hbatches, ?_⟩
    rw [show trace.requests = _ from hrequests]
    exact Http.sent_exchangeAfter hdocumented [] _
  refine ⟨?_, ?_, ?_, ?_, ?_, rfl, ?_, ?_, ?_,
    result_run_eq_ok_iff settings files network library hdocumented⟩
  · rcases hsent with ⟨-, h⟩ | ⟨batch, -, h | h⟩ <;> simp [h]
  · rcases hsent with ⟨h, -⟩ | ⟨batch, h, -⟩ <;> simp [h]
  · intro sent hmem
    rcases hsent with ⟨-, h⟩ | ⟨batch, hbatch, h | h⟩
    · simp [h] at hmem
    · simp [h] at hmem
    · rw [h, List.mem_singleton] at hmem
      exact ⟨batch, by simp [hbatch], hmem⟩
  · intro batch
    rw [mem_batches_run_iff, opening_eq_ok_iff, Catalog.fault?_eq_none_iff, and_assoc]
    refine and_congr_right fun _ => and_congr_right fun _ => ?_
    constructor
    · rintro ⟨⟨listing, hlisting, hreadable⟩, hbatch⟩
      rw [Catalog.listed_of_ok hlisting] at hbatch
      exact ⟨listing, hlisting, hreadable, hbatch⟩
    · rintro ⟨listing, hlisting, hreadable, hbatch⟩
      refine ⟨⟨listing, hlisting, hreadable⟩, ?_⟩
      rw [Catalog.listed_of_ok hlisting]
      exact hbatch
  · intro haccepts hreaches batch hbatch
    have hrequests : trace.requests = trace.batches.map request :=
      requests_run_of_accepts settings files network library hdocumented haccepts hreaches
    rw [hrequests]
    -- One batch is submitted at most, so that this is the one.
    rcases hsent with ⟨h, -⟩ | ⟨other, h, -⟩
    · simp [h] at hbatch
    · rw [h, List.mem_singleton] at hbatch
      rw [h, hbatch]
      rfl
  · intro problem hproblem
    have hrun := run_of_opening_error settings files network library
      (opening_of_check_error hproblem)
    exact ⟨congrArg Run.result hrun, congrArg Run.trace hrun⟩
  · intro reason hcheck hreason
    have hrun := run_of_opening_error settings files network library
      (opening_of_create_error hcheck hreason)
    exact ⟨congrArg Run.result hrun, congrArg Run.trace hrun⟩
  · intro hcheck hcreate
    have hopening := opening_eq_ok_iff.2 ⟨hcheck, hcreate⟩
    refine ⟨?_, ?_, output_beforeSubmission_run settings files network library hopening⟩
    · intro error hlisting
      exact run_of_fault settings files network library hopening (Catalog.fault?_of_error hlisting)
    · intro before entry after error hlisting hbefore hentry
      refine run_of_fault settings files network library hopening ?_
      have hreadable : ∀ other ∈ before, other.fault? = none := fun other hother =>
        Catalog.Entry.fault?_eq_none_iff.2 (hbefore other hother)
      rw [Catalog.fault?_of_ok hlisting, Catalog.firstFault?_append after hreadable hentry]

/-- A root without jobs, and a server that accepts what it is sent: that is an empty batch. -/
theorem run_all_or_nothing_of_empty_batch :
    let uri : Url :=
      { scheme := "http".toList
        authority := some
          { username := [], password := [], host := .named "proctord".toList, port := none }
        route := .segments [[]]
        query := none
        fragment := none }
    let settings : NotifySettings :=
      { jobs := { jobsPath := ⟨"/"⟩ }, coordinator := { uri }, settleDelay := 0 }
    let network : Network := .replies [.answer 201 [] [] true]
    let run := run settings .empty network
    Http.Library.plain.Documented ∧
      run.trace.requests = [Http.batchSubmission uri []] ∧ run.result = .ok 0 := by
  intro uri settings network run
  have haccepts : Http.Library.plain.Accepts (Http.clientOptions 30) uri :=
    Http.Library.accepts_plain (by decide) _
  obtain ⟨-, -, -, hmem, hsent, -, -, -, -, hok⟩ :=
    run_all_or_nothing Http.Library.documented_plain settings .empty network
  have hcheck : settings.check = .ok () := by
    unfold settings uri
    rfl
  have hlisting : (Catalog.ofTree .empty settings.jobs).listing = .ok [] := by
    unfold settings uri
    rfl
  have hbatch : [] ∈ run.trace.batches :=
    (hmem []).2 ⟨hcheck, rfl, [], hlisting, List.forall_mem_nil _, rfl⟩
  have hrequests : run.trace.requests = [Http.batchSubmission uri []] :=
    hsent haccepts rfl [] hbatch
  have hbatches : run.trace.batches = [[]] := by
    unfold run settings uri network
    rfl
  exact ⟨Http.Library.documented_plain, hrequests,
    (hok 0).2 ⟨[], hbatches, hrequests, rfl, rfl⟩⟩

end Notify

end JobImages
