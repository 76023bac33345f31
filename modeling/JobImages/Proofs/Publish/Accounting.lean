import JobImages.Proofs.Publish.Answers
import JobImages.Proofs.Publish.Success

/-!
# The accounts of publishing

Three records are kept of a run: what it returns, what it prints and what it asks of the engine.
They agree.  The run goes through the directories of a catalog one by one, and from each it gets on
with exactly one entry: a line if the directory has no metadata, a push that succeeds if it has.
Where it stops, the directory at hand has neither.

The engine may print what it likes, so the lines of the run are told apart by their place: they are
the effects that belong to no answer.

## Main definitions

* `Engine.pushedImages` — the images that are pushed with success;
* `Engine.besides` — what a trace shows besides the answers of the engine;
* `Publish.announced` — the lines in which directories are reported as skipped;
* `Publish.publishOne` — the part of a run that is about one job;
* `Publish.Accounted` — the accounts of a run that got through some directories.

## Main results

* `Publish.publishOne_answered`, `Publish.publishOne_cases` — one job;
* `Publish.entries_accounted` — the accounts of a run over some directories;
* `Publish.accounts_agree` — the accounts of a run over a catalog.
-/

namespace JobImages

/-! ## Records of a trace -/

/-- The directory that a step reads, if it does that. -/
def Step.read? : Step → Option JobDirectory
  | .read job => some job
  | _ => none

/-- The directories that are read, in order. -/
def Trace.reads (trace : Trace) : List JobDirectory :=
  trace.steps.filterMap Step.read?

@[simp] theorem Trace.reads_append (s t : Trace) : reads (s ++ t) = reads s ++ reads t := by
  simp [reads]

namespace Engine

variable (engine : Engine)

/-- The images that are pushed with success by some calls that follow others. -/
def pushedImages : List Call → List Call → List Image
  | _, [] => []
  | earlier, asked :: rest =>
    (match (engine.respond earlier asked).result with
      | .ok () => asked.pushed?.toList
      | .error _ => []) ++ pushedImages (earlier ++ [asked]) rest

theorem pushedImages_append (first : List Call) :
    ∀ earlier rest, engine.pushedImages earlier (first ++ rest) =
      engine.pushedImages earlier first ++ engine.pushedImages (earlier ++ first) rest := by
  induction first with
  | nil =>
    intro earlier rest
    rw [List.append_nil]
    rfl
  | cons asked others ih =>
    intro earlier rest
    rw [List.cons_append, pushedImages, pushedImages, ih, List.append_assoc, List.append_assoc]
    rfl

variable {engine}

theorem pushedImages_cons_of_ok {earlier : List Call} {asked : Call} (rest : List Call)
    (h : (engine.respond earlier asked).result = .ok ()) :
    engine.pushedImages earlier (asked :: rest) =
      asked.pushed?.toList ++ engine.pushedImages (earlier ++ [asked]) rest := by
  rw [pushedImages, h]

theorem pushedImages_of_error {earlier : List Call} {asked : Call} {error : Error}
    (h : (engine.respond earlier asked).result = .error error) :
    engine.pushedImages earlier [asked] = [] := by
  rw [pushedImages, h]
  rfl

/-- Where every call succeeds, all pushes do. -/
theorem pushedImages_of_done (calls : List Call) :
    ∀ earlier, (∀ before asked after, calls = before ++ asked :: after →
        (engine.respond (earlier ++ before) asked).result = .ok ()) →
      engine.pushedImages earlier calls = calls.filterMap Call.pushed? := by
  induction calls with
  | nil =>
    intro earlier _
    rfl
  | cons asked rest ih =>
    intro earlier hdone
    have hfirst : (engine.respond earlier asked).result = .ok () := by
      simpa using hdone [] asked rest rfl
    have hrest : engine.pushedImages (earlier ++ [asked]) rest =
        rest.filterMap Call.pushed? := by
      refine ih _ fun before next after hsplit => ?_
      rw [List.append_assoc]
      exact hdone (asked :: before) next after (congrArg (asked :: ·) hsplit)
    rw [pushedImages_cons_of_ok _ hfirst, hrest]
    cases asked <;> rfl

variable (engine)

/-- What a trace shows after some calls besides their answers, and those to its own calls, when
`left` effects of the last answer are still to come. -/
def besides : List Call → Nat → Trace → List Effect
  | _, _, [] => []
  | earlier, left, .step step :: rest =>
    match step.call? with
    | some asked =>
      besides (earlier ++ [asked]) (engine.respond earlier asked).effects.length rest
    | none => besides earlier left rest
  | earlier, 0, .effect shown :: rest => shown :: besides earlier 0 rest
  | earlier, left + 1, .effect _ :: rest => besides earlier left rest

theorem besides_step {step : Step} (h : step.call? = none) (earlier : List Call) (left : Nat)
    (rest : Trace) :
    engine.besides earlier left (.step step :: rest) = engine.besides earlier left rest := by
  rw [besides, h]

/-- The rest of an answer is passed over. -/
theorem besides_map_effect (earlier : List Call) (rest : Trace) (effects : List Effect) :
    engine.besides earlier effects.length (effects.map .effect ++ rest) =
      engine.besides earlier 0 rest := by
  induction effects with
  | nil => rfl
  | cons effect others ih =>
    rw [List.length_cons, List.map_cons, List.cons_append, besides]
    exact ih

/-- Effects that belong to no answer are shown. -/
theorem besides_own_append (earlier : List Call) (rest : Trace) (effects : List Effect) :
    engine.besides earlier 0 (effects.map .effect ++ rest) =
      effects ++ engine.besides earlier 0 rest := by
  induction effects with
  | nil => rfl
  | cons effect others ih => rw [List.map_cons, List.cons_append, besides, ih, List.cons_append]

/-- A call is passed over with its answer. -/
theorem besides_call (earlier : List Call) (asked : Call) (rest : Trace) :
    engine.besides earlier 0
        (.step (.call asked) :: ((engine.respond earlier asked).effects.map .effect ++ rest)) =
      engine.besides (earlier ++ [asked]) 0 rest := by
  rw [besides]
  exact besides_map_effect engine _ _ _

end Engine

namespace Publish

namespace Answered

variable {engine : Engine} {own : Effect → Prop} {earlier : List Engine.Call} {trace : Trace}

/-- What is shown besides the answers is of the run's own. -/
theorem forall_besides (h : Answered engine own earlier trace) :
    ∀ effect ∈ engine.besides earlier 0 trace, own effect := by
  induction h with
  | nil earlier =>
    intro effect heffect
    cases heffect
  | step hquiet hrest ih =>
    rw [engine.besides_step hquiet]
    exact ih
  | effect hown hrest ih =>
    rw [Engine.besides]
    exact List.forall_mem_cons.2 ⟨hown, ih⟩
  | call hrest ih =>
    rw [engine.besides_call]
    exact ih

/-- A trace that ends behind an answer does not bear on how the next is told apart. -/
theorem besides_append (h : Answered engine own earlier trace) (rest : Trace) :
    engine.besides earlier 0 (trace ++ rest) =
      engine.besides earlier 0 trace ++ engine.besides (earlier ++ trace.calls) 0 rest := by
  induction h with
  | nil earlier =>
    rw [List.nil_append]
    show _ = [] ++ engine.besides (earlier ++ []) 0 rest
    rw [List.append_nil, List.nil_append]
  | @step earlier step others hquiet hrest ih =>
    have hcalls : Trace.calls (.step step :: others) = Trace.calls others := by
      rw [Trace.calls, Trace.steps_cons_step, List.filterMap_cons_none hquiet]
      rfl
    rw [List.cons_append, engine.besides_step hquiet, engine.besides_step hquiet, ih, hcalls]
  | @effect earlier effect others hown hrest ih =>
    have hcalls : Trace.calls (.effect effect :: others) = Trace.calls others := rfl
    rw [List.cons_append, Engine.besides, Engine.besides, ih, hcalls, List.cons_append]
  | @call earlier asked others hrest ih =>
    have hcalls : Trace.calls (.step (.call asked) ::
        ((engine.respond earlier asked).effects.map .effect ++ others)) =
          asked :: Trace.calls others := by
      simp [Trace.calls, Step.call?]
    rw [List.cons_append, List.append_assoc, engine.besides_call, engine.besides_call, ih, hcalls,
      List.append_assoc, List.singleton_append]

end Answered

/-! ## Pushes of a plan -/

/-- The images pushed with success are those of the tasks that were done: all of the plan, or those
in front of the one that failed. -/
theorem CarriedOut.pushedImages {engine : Engine} {earlier : List Engine.Call}
    {plan attempted : List Task} {ending : Except Error Unit}
    (h : CarriedOut engine earlier plan attempted ending) :
    ∃ done,
      engine.pushedImages earlier (callsOf attempted) =
        (callsOf done).filterMap Engine.Call.pushed? ∧
      (ending = .ok () → done = plan) ∧
      (∀ error, ending = .error error → ∃ task, done ++ [task] <+: plan) := by
  induction h with
  | done earlier =>
    refine ⟨[], rfl, fun _ => rfl, fun error hending => ?_⟩
    cases hending
  | @next earlier task rest attempted ending hdone hrest ih =>
    obtain ⟨done, hpushed, hcomplete, hstopped⟩ := ih
    refine ⟨task :: done, ?_, fun hending => by rw [hcomplete hending], ?_⟩
    · -- Of all tasks only a call can push.
      cases task with
      | list catalog => simpa [Task.call?] using hpushed
      | read entry => simpa [Task.call?] using hpushed
      | call asked =>
        have hfirst : (engine.respond earlier asked).result = .ok () := hdone
        rw [callsOf_call_cons, callsOf_call_cons, Engine.pushedImages_cons_of_ok _ hfirst]
        have hothers : engine.pushedImages (earlier ++ [asked]) (callsOf attempted) =
            (callsOf done).filterMap Engine.Call.pushed? := hpushed
        rw [hothers]
        cases asked <;> rfl
    · intro error hending
      obtain ⟨next, hnext⟩ := hstopped error hending
      exact ⟨next, List.cons_prefix_cons.2 ⟨rfl, hnext⟩⟩
  | @stop earlier task error rest hfails =>
    refine ⟨[], ?_, ?_, fun _ _ => ⟨task, ?_⟩⟩
    · cases task with
      | list catalog => rfl
      | read entry => rfl
      | call asked => exact Engine.pushedImages_of_error hfails
    · intro hending
      cases hending
    · exact List.cons_prefix_cons.2 ⟨rfl, List.nil_prefix⟩

/-! ## Lines on skipped directories -/

/-- Whether a line reports a directory as skipped. -/
def isSkipLine (text : String) : Bool :=
  " doesn't have metadata_file".toList.isSuffixOf text.toList

/-- The line that an effect is, if it reports a directory as skipped. -/
def skipLine? : Effect → Option String
  | .printed text => if isSkipLine text then some text else none
  | _ => none

/-- The lines of the run's own in which directories are reported as skipped. -/
def announced (engine : Engine) (earlier : List Engine.Call) (trace : Trace) : List String :=
  (engine.besides earlier 0 trace).filterMap skipLine?

theorem skipLine?_skipLine (directory : Path) :
    skipLine? (.printed (skipLine directory)) = some (skipLine directory) := by
  have hsuffix : isSkipLine (skipLine directory) = true := by
    rw [isSkipLine, List.isSuffixOf_iff_suffix, skipLine]
    exact ⟨directory.text.toList, String.toList_append.symm⟩
  rw [skipLine?, if_pos hsuffix]

/-! ## One job -/

/-- The part of a run that is about one job.  Its value is all calls that were made by its end. -/
def publishOne (settings : PublishSettings) (engine : Engine) (loggedIn : Bool)
    (earlier : List Engine.Call) (directory : JobDirectory) (metadata : Metadata) :
    Run (List Engine.Call) := do
  let image := settings.jobs.image metadata.name
  let build := Engine.Call.build image directory.path
  let push := Engine.Call.push image
  let earlier ← ensureLogin settings engine loggedIn earlier
  Run.emit [.printed buildLine]
  engine.call earlier build
  engine.call (earlier ++ [build]) push
  Run.emit [.logged (publishedRemark metadata image)]
  pure (earlier ++ [build, push])

/-- What is shown for a job besides the answers of the engine. -/
def IsJobEffect (effect : Effect) : Prop :=
  effect = .printed buildLine ∨ ∃ record, effect = .logged record

theorem skipLine?_of_isJobEffect {effect : Effect} (h : IsJobEffect effect) :
    skipLine? effect = none := by
  rcases h with rfl | ⟨record, rfl⟩
  · decide
  · rfl

section Job

variable (settings : PublishSettings) (engine : Engine)

theorem entries_cons_of_some {entry : Catalog.Entry} {metadata : Metadata} (loggedIn : Bool)
    (earlier : List Engine.Call) (rest : List Catalog.Entry)
    (h : entry.reading = .ok (some metadata)) :
    entries settings engine loggedIn earlier (entry :: rest) =
      (Run.take (.read entry.directory) >>= fun _ =>
        publishOne settings engine loggedIn earlier entry.directory metadata >>= fun calls =>
          entries settings engine true calls rest >>= fun outcome =>
            pure (outcome.publishing (settings.jobs.image metadata.name))) := by
  rw [entries, h]
  simp only [Run.ofExcept_ok_bind, publishOne, bind_assoc, pure_bind]

variable (directory : JobDirectory) (metadata : Metadata)

/-- A job that comes after the login. -/
theorem publishOne_true (earlier : List Engine.Call) :
    let image := settings.jobs.image metadata.name
    let build := Engine.Call.build image directory.path
    publishOne settings engine true earlier directory metadata =
      (Run.emit [.printed buildLine] >>= fun _ => engine.call earlier build >>= fun _ =>
        engine.call (earlier ++ [build]) (.push image) >>= fun _ =>
          Run.emit [.logged (publishedRemark metadata image)] >>= fun _ =>
            pure (earlier ++ [build, .push image])) := rfl

/-- A job that comes first. -/
theorem publishOne_false (earlier : List Engine.Call) :
    publishOne settings engine false earlier directory metadata =
      (engine.call earlier (.login settings.credentials) >>= fun _ =>
        publishOne settings engine true (earlier ++ [.login settings.credentials]) directory
          metadata) :=
  ensureLogin_false_bind settings engine earlier _

theorem publishOne_answered (loggedIn : Bool) (earlier : List Engine.Call) :
    Answered engine IsJobEffect earlier
      (publishOne settings engine loggedIn earlier directory metadata).trace := by
  have hlater : ∀ calls, Answered engine IsJobEffect calls
      (publishOne settings engine true calls directory metadata).trace := by
    intro calls
    rw [publishOne_true]
    refine .effect (.inl rfl) (.call_bind (.call_bind ?_))
    exact .effect (.inr ⟨_, rfl⟩) (.nil _)
  cases loggedIn with
  | true => exact hlater earlier
  | false =>
    rw [publishOne_false]
    exact .call_bind (hlater _)

/-- The calls for a job, with the login if that is still to be made. -/
def callsFor (loggedIn : Bool) : List Engine.Call :=
  (if loggedIn then [] else [.login settings.credentials]) ++ imageCalls settings directory metadata

theorem publishOne_follows (loggedIn : Bool) (earlier : List Engine.Call) :
    Follows engine earlier ((callsFor settings directory metadata loggedIn).map .call)
      (publishOne settings engine loggedIn earlier directory metadata) := by
  have hplan : (callsFor settings directory metadata loggedIn).map Task.call =
      (if loggedIn then [] else [.call (.login settings.credentials)]) ++
        (imageCalls settings directory metadata).map .call := by
    cases loggedIn <;> rfl
  rw [hplan]
  refine Follows.ensureLogin loggedIn fun calls => Follows.emit rfl ?_
  exact Follows.call _ (Follows.call _ (Follows.emit rfl (Follows.pure _)))

/-- The value of a job's part counts the calls that were planned for it. -/
theorem calls_of_publishOne_ok {loggedIn : Bool} {earlier calls : List Engine.Call}
    (h : (publishOne settings engine loggedIn earlier directory metadata).result = .ok calls) :
    calls = earlier ++ callsFor settings directory metadata loggedIn := by
  have hlater : ∀ before,
      (publishOne settings engine true before directory metadata).result = .ok calls →
        calls = before ++ imageCalls settings directory metadata := by
    intro before hbefore
    simp only [publishOne_true, Run.emit_bind, Run.result_bind_eq_ok_iff] at hbefore
    obtain ⟨-, -, -, -, hvalue⟩ := hbefore
    cases hvalue
    rfl
  cases loggedIn with
  | true => exact hlater earlier h
  | false =>
    rw [publishOne_false, Run.result_bind_eq_ok_iff] at h
    obtain ⟨-, -, hrest⟩ := h
    simpa [callsFor] using hlater _ hrest

/-- The push is the last of the calls for a job, and the only push. -/
theorem callsFor_eq_concat (loggedIn : Bool) :
    ∃ others, callsFor settings directory metadata loggedIn =
        others ++ [.push (settings.jobs.image metadata.name)] ∧
      others.filterMap Engine.Call.pushed? = [] := by
  cases loggedIn with
  | true => exact ⟨[.build _ directory.path], rfl, rfl⟩
  | false => exact ⟨[.login settings.credentials, .build _ directory.path], rfl, rfl⟩

/-- What is done for a job: one push that succeeds if all goes well, and none otherwise.  No
directory is read. -/
theorem publishOne_cases (loggedIn : Bool) (earlier : List Engine.Call) :
    let run := publishOne settings engine loggedIn earlier directory metadata
    run.trace.reads = [] ∧
      ((run.result = .ok (earlier ++ run.trace.calls) ∧
          engine.pushedImages earlier run.trace.calls = [settings.jobs.image metadata.name]) ∨
        (∃ error, run.result = .error error) ∧
          engine.pushedImages earlier run.trace.calls = []) := by
  intro run
  obtain ⟨attempted, hcarried, hsteps, -⟩ :=
    publishOne_follows settings engine directory metadata loggedIn earlier
  obtain ⟨done, hpushed, hcomplete, hstopped⟩ := hcarried.pushedImages
  obtain ⟨others, hothers, hnone⟩ := callsFor_eq_concat settings directory metadata loggedIn
  have hcalls : run.trace.calls = callsOf attempted := calls_eq_callsOf hsteps
  refine ⟨?_, ?_⟩
  · -- All tasks are calls.
    rw [Trace.reads, hsteps, List.filterMap_map, List.filterMap_eq_nil_iff]
    intro task htask
    obtain ⟨asked, -, rfl⟩ := List.mem_map.1 (hcarried.isPrefix.subset htask)
    rfl
  · cases hresult : run.result with
    | ok calls =>
      have hending : (run.result.map fun _ => ()) = .ok () := by rw [hresult]; rfl
      have hattempted := hcarried.complete hending
      rw [hcomplete hending, callsOf_map_call, hothers, List.filterMap_append, hnone] at hpushed
      rw [hattempted, callsOf_map_call] at hcalls
      rw [calls_of_publishOne_ok settings engine directory metadata hresult, ← hcalls]
      refine .inl ⟨rfl, ?_⟩
      rw [hcalls, ← callsOf_map_call (callsFor settings directory metadata loggedIn), ← hattempted,
        hpushed]
      rfl
    | error error =>
      have hending : (run.result.map fun _ => ()) = .error error := by rw [hresult]; rfl
      obtain ⟨task, htask⟩ := hstopped error hending
      -- What was done lies in front of a task of the plan, hence in front of the push.
      have hdone : done <+: others.map .call := by
        rw [hothers, List.map_append, List.map_singleton, List.prefix_concat_iff] at htask
        rcases htask with hall | hpart
        · exact (List.append_inj_left' hall rfl) ▸ List.prefix_refl _
        · exact (List.prefix_append done [task]).trans hpart
      have hquiet := (hdone.filterMap Task.call?).filterMap Engine.Call.pushed?
      rw [← callsOf, ← callsOf, callsOf_map_call, hnone, List.prefix_nil] at hquiet
      exact .inr ⟨⟨error, rfl⟩, by rw [hcalls, hpushed, hquiet]⟩

end Job

/-! ## Some directories -/

/-- The accounts of a run after some calls that got through the directories in `passed` and stopped
at the first of those in `left`. -/
structure Accounted (settings : JobSettings) (engine : Engine) (earlier : List Engine.Call)
    (passed left : List Catalog.Entry) (run : Run Outcome) : Prop where
  /-- The directories are read in order, also the one at which the run stopped. -/
  reads : run.trace.reads = (passed ++ left.take 1).map (·.directory)
  /-- The jobs are pushed. -/
  pushed : engine.pushedImages earlier run.trace.calls = passed.filterMap (image? settings)
  /-- The others are announced. -/
  announced : Publish.announced engine earlier run.trace =
    (passed.filter (·.metadata?.isNone)).map fun entry => skipLine entry.directory.path
  /-- The run ends early if it stopped. -/
  ending : left = [] ↔ ∃ outcome, run.result = .ok outcome

section Accounted

variable {settings : JobSettings} {engine : Engine} {own : Effect → Prop}
  {earlier : List Engine.Call} {passed left : List Catalog.Entry} {entry : Catalog.Entry}
  {part : Trace} {run : Run Outcome}

theorem announced_read_cons (job : JobDirectory) (rest : Trace) :
    announced engine earlier (.step (.read job) :: rest) = announced engine earlier rest := by
  rw [announced, announced, engine.besides_step rfl]

/-- A run that stops at a directory has no entry for it. -/
theorem Accounted.stop {error : Error} (part : Trace) (rest : List Catalog.Entry)
    (htrace : run.trace = .step (.read entry.directory) :: part)
    (hresult : run.result = .error error) (hreads : part.reads = [])
    (hpushed : engine.pushedImages earlier part.calls = [])
    (hannounced : Publish.announced engine earlier part = []) :
    Accounted settings engine earlier [] (entry :: rest) run where
  reads := by
    rw [htrace]
    exact congrArg (entry.directory :: ·) hreads
  pushed := by
    rw [htrace]
    exact hpushed
  announced := by
    rw [htrace, announced_read_cons, hannounced]
    rfl
  ending := by simp [hresult]

/-- A run that gets past a directory has one entry for it, in front of those that follow. -/
theorem Accounted.pass (after : Run Outcome) (f : Outcome → Outcome)
    (htrace : run.trace = .step (.read entry.directory) :: (part ++ after.trace))
    (hresult : run.result = after.result.map f) (hpart : Answered engine own earlier part)
    (hreads : part.reads = [])
    (hpushed : engine.pushedImages earlier part.calls = (image? settings entry).toList)
    (hannounced : Publish.announced engine earlier part =
      if entry.metadata?.isNone then [skipLine entry.directory.path] else [])
    (h : Accounted settings engine (earlier ++ part.calls) passed left after) :
    Accounted settings engine earlier (entry :: passed) left run where
  reads := by
    have hothers : (part ++ after.trace).reads = (passed ++ left.take 1).map (·.directory) := by
      rw [Trace.reads_append, hreads, h.reads, List.nil_append]
    rw [htrace]
    exact congrArg (entry.directory :: ·) hothers
  pushed := by
    have hcalls : run.trace.calls = part.calls ++ after.trace.calls := by
      rw [htrace, ← Trace.calls_append]
      rfl
    rw [hcalls, engine.pushedImages_append, hpushed, h.pushed, List.filterMap_cons]
    cases image? settings entry <;> rfl
  announced := by
    have hothers := h.announced
    rw [Publish.announced] at hothers hannounced
    rw [htrace, announced_read_cons, Publish.announced, hpart.besides_append, List.filterMap_append,
      hannounced, hothers]
    cases hnone : entry.metadata?.isNone <;> simp [hnone]
  ending := by
    rw [h.ending, hresult]
    cases after.result <;> simp [Except.map]

end Accounted

section Entries

variable (settings : PublishSettings) (engine : Engine)

/-- The run over some directories gets through some of them, and each has its entry in the
accounts. -/
theorem entries_accounted (listing : List Catalog.Entry) :
    ∀ (loggedIn : Bool) (earlier : List Engine.Call),
      ∃ passed left, listing = passed ++ left ∧
        Accounted settings.jobs engine earlier passed left
          (entries settings engine loggedIn earlier listing) := by
  induction listing with
  | nil =>
    intro loggedIn earlier
    exact ⟨[], [], rfl, rfl, rfl, rfl, fun _ => ⟨_, rfl⟩, fun _ => rfl⟩
  | cons entry rest ih =>
    intro loggedIn earlier
    cases hreading : entry.reading with
    | error error =>
      -- The run stops at a directory that cannot be read, before anything else.
      rw [entries, hreading]
      exact ⟨[], entry :: rest, rfl, .stop [] rest rfl rfl rfl rfl rfl⟩
    | ok reading =>
      have hmetadata := Catalog.Entry.metadata?_of_ok hreading
      cases reading with
      | none =>
        obtain ⟨passed, left, hrest, haccounts⟩ := ih loggedIn earlier
        refine ⟨entry :: passed, left, congrArg (entry :: ·) hrest, ?_⟩
        -- The line stands between the reading and what comes of the other directories.
        have hline : Answered engine IsOwnEffect earlier
            [.effect (.printed (skipLine entry.directory.path))] :=
          .effect (.inr (.inl ⟨_, rfl⟩)) (.nil earlier)
        rw [entries, hreading]
        simp only [Run.take_bind, Run.ofExcept_ok_bind, Run.emit_bind, bind_pure_comp]
        refine .pass (entries settings engine loggedIn earlier rest)
          (Outcome.skipping entry.directory.path) ?_ ?_ hline rfl ?_ ?_ ?_
        · simp
        · simp
        · simp [image?, hmetadata, Trace.calls, Engine.pushedImages]
        · simp [hmetadata, announced, Engine.besides, skipLine?_skipLine]
        · simpa [Trace.calls] using haccounts
      | some metadata =>
        have hanswered :=
          publishOne_answered settings engine entry.directory metadata loggedIn earlier
        have hquiet : announced engine earlier
            (publishOne settings engine loggedIn earlier entry.directory metadata).trace = [] := by
          rw [announced, List.filterMap_eq_nil_iff]
          exact fun effect heffect =>
            skipLine?_of_isJobEffect (hanswered.forall_besides effect heffect)
        obtain ⟨hreads, ⟨hresult, hpushed⟩ | ⟨⟨error, hresult⟩, hpushed⟩⟩ :=
          publishOne_cases settings engine entry.directory metadata loggedIn earlier
        · obtain ⟨passed, left, hrest, haccounts⟩ := ih true _
          refine ⟨entry :: passed, left, congrArg (entry :: ·) hrest, ?_⟩
          rw [entries_cons_of_some settings engine loggedIn earlier rest hreading, Run.take_bind,
            Run.bind_of_ok _ hresult, bind_pure_comp]
          refine .pass _ (Outcome.publishing (settings.jobs.image metadata.name)) ?_ ?_ hanswered
            hreads ?_ ?_ haccounts
          · simp
          · simp
          · rw [hpushed, image?, hmetadata]
            rfl
          · rw [hquiet, hmetadata]
            rfl
        · -- The run stops at a job for which some call fails.
          refine ⟨[], entry :: rest, rfl, ?_⟩
          rw [entries_cons_of_some settings engine loggedIn earlier rest hreading, Run.take_bind,
            Run.bind_of_error _ hresult]
          exact .stop _ rest rfl rfl hreads hpushed hquiet

end Entries

/-! ## Catalogs -/

/-- Whether a directory has no metadata file. -/
def isBare (entry : Catalog.Entry) : Bool :=
  match entry.reading with
  | .ok none => true
  | _ => false

theorem filter_isBare {listing : List Catalog.Entry}
    (h : ∀ entry ∈ listing, ∃ reading, entry.reading = .ok reading) :
    listing.filter isBare = listing.filter (·.metadata?.isNone) := by
  refine List.filter_congr fun entry hentry => ?_
  obtain ⟨reading, hreading⟩ := h entry hentry
  rw [isBare, Catalog.Entry.metadata?_of_ok hreading, hreading]
  cases reading <;> rfl

/-- The directories of a catalog are those with metadata and those without. -/
theorem perm_jobs_append (listing : List Catalog.Entry) :
    ((jobs listing).map (·.1.path) ++
        (listing.filter (·.metadata?.isNone)).map (·.directory.path)).Perm
      (listing.map (·.directory.path)) := by
  induction listing with
  | nil => exact .refl _
  | cons entry rest ih =>
    cases hmetadata : entry.metadata? with
    | none =>
      rw [jobs_cons_of_none rest hmetadata, List.filter_cons_of_pos (by simp [hmetadata])]
      exact List.perm_middle.trans (ih.cons _)
    | some metadata =>
      rw [jobs_cons_of_some rest hmetadata, List.filter_cons_of_neg (by simp [hmetadata])]
      exact ih.cons _

theorem map_image_jobs (settings : JobSettings) (listing : List Catalog.Entry) :
    (jobs listing).map (fun job => settings.image job.2.name) =
      listing.filterMap (image? settings) := by
  rw [jobs, List.map_filterMap]
  congr 1
  funext entry
  rw [image?, Option.map_map]
  rfl

/-- Two images of one team and registry are the same if they are of one name. -/
theorem image_eq_image_iff (settings : JobSettings) (first second : String) :
    settings.image first = settings.image second ↔ first = second := by
  constructor
  · intro h
    have htext := congrArg (·.reference.toList) h
    simpa [JobSettings.image, Image.ofJob, String.toList_append, ← String.toList_inj] using htext
  · exact congrArg _

section Execute

variable (settings : PublishSettings) (engine : Engine) {catalog : Catalog}

theorem execute_of_listing_ok {listing : List Catalog.Entry}
    (hlisting : catalog.listing = .ok listing) :
    execute settings catalog engine =
      { trace := .step .list :: ((catalog.remarks.map Effect.logged).map .effect ++
          (entries settings engine false [] listing).trace)
        result := (entries settings engine false [] listing).result } := by
  rw [execute, hlisting]
  rfl

theorem execute_of_listing_error {error : Error} (hlisting : catalog.listing = .error error) :
    execute settings catalog engine =
      { trace := .step .list :: (catalog.remarks.map Effect.logged).map .effect
        result := .error error } := by
  rw [execute, hlisting]
  exact Run.ext (congrArg (Event.step .list :: ·) (List.append_nil _)) rfl

/-- Listing a catalog has no entry in the accounts. -/
theorem execute_accounted {listing : List Catalog.Entry}
    (hlisting : catalog.listing = .ok listing) :
    ∃ passed left, listing = passed ++ left ∧
      Accounted settings.jobs engine [] passed left (execute settings catalog engine) := by
  obtain ⟨passed, left, hsplit, haccounts⟩ := entries_accounted settings engine listing false []
  have hrun := execute_of_listing_ok settings engine hlisting
  refine ⟨passed, left, hsplit, ?_, ?_, ?_, ?_⟩
  · rw [hrun, ← haccounts.reads, Trace.reads, Trace.steps_cons_step, Trace.steps_append,
      Trace.steps_map_effect]
    rfl
  · have hcalls : (execute settings catalog engine).trace.calls =
        (entries settings engine false [] listing).trace.calls := by
      rw [hrun, Trace.calls, Trace.steps_cons_step, Trace.steps_append, Trace.steps_map_effect]
      rfl
    rw [hcalls, haccounts.pushed]
  · have hremarks : (catalog.remarks.map Effect.logged).filterMap skipLine? = [] := by
      simp [List.filterMap_map, Function.comp_def, skipLine?]
    rw [hrun, announced, engine.besides_step rfl, engine.besides_own_append, List.filterMap_append,
      hremarks, ← haccounts.announced]
    rfl
  · rw [hrun]
    exact haccounts.ending

variable {settings engine}

/-- The calls of a run that succeeds: the login, and then for each job its build and its push. -/
theorem calls_of_job {outcome : Outcome} {listing : List Catalog.Entry}
    (h : (execute settings catalog engine).result = .ok outcome)
    (hlisting : catalog.listing = .ok listing)
    {first rest : List (JobDirectory × Metadata)} {directory : JobDirectory} {metadata : Metadata}
    (hjobs : jobs listing = first ++ (directory, metadata) :: rest) :
    (execute settings catalog engine).trace.calls =
      (.login settings.credentials :: jobCalls settings first) ++
        .build (settings.jobs.image metadata.name) directory.path ::
          .push (settings.jobs.image metadata.name) :: jobCalls settings rest := by
  rw [calls_of_ok h, plan, callsOf_list_cons, Catalog.listed_of_ok hlisting]
  rcases callsOf_tasks settings listing with hnone | hcalls
  · -- A plan without calls has no image to push, and there is one.
    have himages := pushed_tasks settings listing
    rw [hnone, ← map_image_jobs, hjobs] at himages
    simp at himages
  · rw [hcalls, hjobs, jobCalls, List.flatMap_append, List.flatMap_cons]
    rfl

theorem pushed_jobCalls (settings : PublishSettings) (jobs : List (JobDirectory × Metadata)) :
    (jobCalls settings jobs).filterMap Engine.Call.pushed? =
      jobs.map fun job => settings.jobs.image job.2.name := by
  induction jobs with
  | nil => rfl
  | cons job rest ih =>
    rw [jobCalls_cons, List.filterMap_append, ih]
    rfl

/-- In a run that succeeds each job is built in its directory, with the images of the jobs before it
pushed by then, and its push comes next. -/
theorem built_of_job {outcome : Outcome} {listing : List Catalog.Entry}
    (h : (execute settings catalog engine).result = .ok outcome)
    (hlisting : catalog.listing = .ok listing)
    {k : Nat} {directory : JobDirectory} {metadata : Metadata}
    (hjob : (jobs listing)[k]? = some (directory, metadata)) :
    let image := settings.jobs.image metadata.name
    ∃ before after,
      (execute settings catalog engine).trace.calls =
        before ++ .build image directory.path :: .push image :: after ∧
      (engine.respond before (.build image directory.path)).result = .ok () ∧
      engine.pushedImages [] before =
        ((jobs listing).map fun job => settings.jobs.image job.2.name).take k := by
  intro image
  obtain ⟨hk, hget⟩ := List.getElem?_eq_some_iff.1 hjob
  have hjobs : jobs listing =
      (jobs listing).take k ++ (directory, metadata) :: (jobs listing).drop (k + 1) := by
    rw [← hget, List.getElem_cons_drop, List.take_append_drop]
  have hcalls := calls_of_job h hlisting hjobs
  refine ⟨_, _, hcalls, respond_of_ok h hcalls, ?_⟩
  -- The calls in front are some of a run in which all succeed.
  rw [Engine.pushedImages_of_done, List.filterMap_cons, pushed_jobCalls, List.map_take]
  · rfl
  · intro before asked after hsplit
    rw [hsplit, List.append_assoc, List.cons_append] at hcalls
    exact respond_of_ok h hcalls

end Execute

section Succeeded

variable {settings : PublishSettings} {engine : Engine} {catalog : Catalog} {outcome : Outcome}
  {listing : List Catalog.Entry} (h : (execute settings catalog engine).result = .ok outcome)
  (hlisting : catalog.listing = .ok listing)

include h hlisting

/-- A run that succeeds returns the images of the jobs. -/
theorem published_eq_map_jobs :
    outcome.published = (jobs listing).map fun job => settings.jobs.image job.2.name := by
  have houtcome := (execute_ok h).2
  rw [Catalog.listed_of_ok hlisting] at houtcome
  rw [houtcome, map_image_jobs]
  rfl

/-- It returns the directories without metadata as skipped. -/
theorem skipped_eq_filter_metadata :
    outcome.skipped = (listing.filter (·.metadata?.isNone)).map (·.directory.path) := by
  have houtcome := (execute_ok h).2
  rw [Catalog.listed_of_ok hlisting] at houtcome
  rw [houtcome]
  rfl

theorem getElem?_published {k : Nat} {job : JobDirectory × Metadata}
    (hjob : (jobs listing)[k]? = some job) :
    outcome.published[k]? = some (settings.jobs.image job.2.name) := by
  rw [published_eq_map_jobs h hlisting, List.getElem?_map, hjob]
  rfl

/-- No directory is lost, and none is counted twice. -/
theorem jobs_append_skipped_perm :
    ((jobs listing).map (·.1.path) ++ outcome.skipped).Perm (listing.map (·.directory.path)) := by
  rw [skipped_eq_filter_metadata h hlisting]
  exact perm_jobs_append listing

/-- It got through the whole catalog. -/
theorem accounted_of_ok :
    Accounted settings.jobs engine [] listing [] (execute settings catalog engine) := by
  obtain ⟨passed, left, rfl, haccounts⟩ := execute_accounted settings engine hlisting
  obtain rfl : left = [] := haccounts.ending.2 ⟨outcome, h⟩
  rw [List.append_nil]
  exact haccounts

end Succeeded

/-- The accounts of a run agree.  When it succeeds, the images it returns are those pushed with
success, in order, and those of the jobs of the catalog; what it returns as skipped are the
directories without metadata, in order, and each has its line; and no directory is lost or counted
twice.  Each job was built in its directory, after the pushes of those before it, and two images are
the same if the names are.  When it fails, the images pushed with success are those of the jobs in
front of the directory that was read last, or none if the catalog could not be listed. -/
theorem accounts_agree (settings : PublishSettings) (catalog : Catalog) (engine : Engine) :
    let run := execute settings catalog engine
    let pushed := engine.pushedImages [] run.trace.calls
    match run.result with
    | .ok outcome => ∃ listing, catalog.listing = .ok listing ∧
        run.trace.reads = listing.map (·.directory) ∧
        outcome.published = pushed ∧
        outcome.published = (jobs listing).map (fun job => settings.jobs.image job.2.name) ∧
        outcome.skipped = (listing.filter isBare).map (·.directory.path) ∧
        announced engine [] run.trace = outcome.skipped.map skipLine ∧
        ((jobs listing).map (·.1.path) ++ outcome.skipped).Perm
          (listing.map (·.directory.path)) ∧
        outcome.published.length + outcome.skipped.length = listing.length ∧
        (∀ k directory metadata, (jobs listing)[k]? = some (directory, metadata) →
          let image := settings.jobs.image metadata.name
          outcome.published[k]? = some image ∧
          ∃ before after,
            run.trace.calls = before ++ .build image directory.path :: .push image :: after ∧
            (engine.respond before (.build image directory.path)).result = .ok () ∧
            engine.pushedImages [] before = outcome.published.take k) ∧
        (∀ (i j : Nat) (first second : JobDirectory × Metadata),
          (jobs listing)[i]? = some first → (jobs listing)[j]? = some second →
          (outcome.published[i]? = outcome.published[j]? ↔ first.2.name = second.2.name))
    | .error error =>
      (catalog.listing = .error error ∧ run.trace.reads = [] ∧ pushed = []) ∨
        ∃ before entry after, catalog.listing = .ok (before ++ entry :: after) ∧
          run.trace.reads = (before ++ [entry]).map (·.directory) ∧
          pushed = before.filterMap (image? settings.jobs) := by
  intro run pushed
  cases hresult : run.result with
  | error error =>
    show _ ∨ _
    cases hlisting : catalog.listing with
    | error cause =>
      -- Nothing was asked of the engine.
      have hrun : run = _ := execute_of_listing_error settings engine hlisting
      have hcalls : run.trace.calls = [] := by
        rw [hrun, Trace.calls, Trace.steps_cons_step, Trace.steps_map_effect]
        rfl
      refine .inl ⟨?_, ?_, ?_⟩
      · rw [hrun] at hresult
        exact congrArg _ (Except.error.inj hresult)
      · rw [hrun, Trace.reads, Trace.steps_cons_step, Trace.steps_map_effect]
        rfl
      · show engine.pushedImages [] run.trace.calls = []
        rw [hcalls]
        rfl
    | ok listing =>
      obtain ⟨passed, left, rfl, haccounts⟩ := execute_accounted settings engine hlisting
      cases left with
      | nil =>
        obtain ⟨outcome, houtcome⟩ := haccounts.ending.1 rfl
        cases hresult.symm.trans houtcome
      | cons entry after =>
        exact .inr ⟨passed, entry, after, rfl, haccounts.reads, haccounts.pushed⟩
  | ok outcome =>
    obtain ⟨listing, hlisting, hreadable⟩ := Catalog.fault?_eq_none_iff.1 (execute_ok hresult).1
    have haccounts := accounted_of_ok hresult hlisting
    have hpublished := published_eq_map_jobs hresult hlisting
    have hskipped := skipped_eq_filter_metadata hresult hlisting
    have hparts := jobs_append_skipped_perm hresult hlisting
    refine ⟨listing, hlisting, ?_, ?_, hpublished, ?_, ?_, hparts, ?_, ?_, ?_⟩
    · rw [haccounts.reads, List.take_nil, List.append_nil]
    · rw [hpublished, map_image_jobs]
      exact haccounts.pushed.symm
    · rw [hskipped, filter_isBare hreadable]
    · rw [hskipped, List.map_map]
      exact haccounts.announced
    · have hlength := hparts.length_eq
      rw [List.length_append, List.length_map, List.length_map] at hlength
      rw [hpublished, List.length_map]
      exact hlength
    · intro k directory metadata hjob image
      have himage := getElem?_published hresult hlisting hjob
      refine ⟨himage, ?_⟩
      rw [hpublished]
      exact built_of_job hresult hlisting hjob
    · intro i j first second hfirst hsecond
      rw [getElem?_published hresult hlisting hfirst, getElem?_published hresult hlisting hsecond,
        Option.some_inj, image_eq_image_iff]

end Publish

end JobImages
