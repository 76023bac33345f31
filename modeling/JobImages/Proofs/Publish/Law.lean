import JobImages.Proofs.Engine.Launches
import JobImages.Proofs.Publish.Plan

/-!
# The law of publishing

A run takes the tasks of its plan in order and stops at the first that fails.  Publishing is one
loop with a flag for the login, and a plan has no such flag: what relates the two is the list of
tasks that are left, which depends on the flag.

## Main definitions

* `Publish.Follows` — a run that carries out a plan;
* `Publish.tasksLeft` — the tasks that are left, by whether the login has been made.

## Main results

* `Publish.entries_follows`, `Publish.execute_follows` — publishing carries out its plan;
* `Publish.execute_carries_out_plan` — the law of all runs over a catalog.
-/

namespace JobImages.Publish

/-! ## Runs that carry out a plan -/

/-- A run carries out a plan after some calls, and starts no process but for its own calls. -/
def Follows {α : Type} (engine : Engine) (earlier : List Engine.Call) (plan : List Task)
    (run : Run α) : Prop :=
  ∃ attempted, CarriedOut engine earlier plan attempted (run.result.map fun _ => ()) ∧
    run.trace.steps = attempted.map Task.step ∧
    run.trace.processes = engine.processesOf earlier (callsOf attempted)

section Follows

variable {α β : Type} {engine : Engine} {earlier : List Engine.Call} {plan : List Task}

theorem Follows.pure (value : α) : Follows engine earlier [] (pure value : Run α) :=
  ⟨[], .done earlier, rfl, rfl⟩

/-- A run that begins with effects of its own. -/
theorem Follows.emit {effects : List Effect} {next : Unit → Run α}
    (hquiet : effects.filterMap Effect.process? = [])
    (h : Follows engine earlier plan (next ())) :
    Follows engine earlier plan (Run.emit effects >>= next) := by
  obtain ⟨attempted, hcarried, hsteps, hprocesses⟩ := h
  refine ⟨attempted, hcarried, ?_, ?_⟩
  · rw [Run.emit_bind, Trace.steps_append, Trace.steps_map_effect, List.nil_append, hsteps]
  · rw [Run.emit_bind, Trace.processes_append, Trace.processes_map_effect, hquiet,
      List.nil_append, hprocesses]

/-- What is worked out of the value of a run takes no step. -/
theorem Follows.bind_pure (f : α → β) {run : Run α} (h : Follows engine earlier plan run) :
    Follows engine earlier plan (run >>= fun value => Pure.pure (f value)) := by
  obtain ⟨attempted, hcarried, hviews⟩ := h
  cases hresult : run.result with
  | ok value =>
    rw [Run.bind_of_ok _ hresult]
    rw [hresult] at hcarried
    exact ⟨attempted, hcarried, by simpa using hviews⟩
  | error error =>
    rw [Run.bind_of_error _ hresult]
    rw [hresult] at hcarried
    exact ⟨attempted, hcarried, hviews⟩

/-- A run that begins with a task that asks nothing of the engine. -/
theorem Follows.attempt {task : Task} {ending : Except Error α} {next : α → Run β}
    (hquiet : task.call? = none)
    (houtcome : task.outcome engine earlier = ending.map fun _ => ())
    (hnext : ∀ value, ending = .ok value → Follows engine earlier plan (next value)) :
    Follows engine earlier (task :: plan)
      (Run.take task.step >>= fun _ => Run.ofExcept ending >>= next) := by
  cases ending with
  | ok value =>
    obtain ⟨attempted, hcarried, hsteps, hprocesses⟩ := hnext value rfl
    have hearlier : earlier ++ task.call?.toList = earlier := by rw [hquiet]; simp
    refine ⟨task :: attempted, .next houtcome (hearlier.symm ▸ hcarried), ?_, ?_⟩
    · rw [Run.take_bind, Run.ofExcept_ok_bind, Trace.steps_cons_step, hsteps, List.map_cons]
    · rw [callsOf, List.filterMap_cons_none hquiet]
      exact hprocesses
  | error error =>
    refine ⟨[task], .stop plan houtcome, rfl, ?_⟩
    rw [callsOf, List.filterMap_cons_none hquiet]
    rfl

/-- A run that begins with a call. -/
theorem Follows.call (asked : Engine.Call) {next : Unit → Run α}
    (hnext : Follows engine (earlier ++ [asked]) plan (next ())) :
    Follows engine earlier (.call asked :: plan) (engine.call earlier asked >>= next) := by
  have hstep : (engine.call earlier asked).trace.steps = [.call asked] := by
    simp [Engine.call, Run.turnTo]
  have hstarted := Engine.processes_call engine earlier asked
  cases hresult : (engine.call earlier asked).result with
  | ok value =>
    obtain ⟨attempted, hcarried, hsteps, hprocesses⟩ := hnext
    rw [Run.bind_of_ok _ hresult]
    refine ⟨.call asked :: attempted, .next hresult hcarried, ?_, ?_⟩
    · rw [Trace.steps_append, hstep, hsteps]
      rfl
    · rw [Trace.processes_append, hstarted, hprocesses, callsOf_call_cons]
      simp [Engine.processesOf]
  | error error =>
    rw [Run.bind_of_error _ hresult]
    exact ⟨[.call asked], .stop plan hresult, hstep, hstarted⟩

end Follows

/-- The tasks that are left for some directories, by whether the login has been made. -/
def tasksLeft (settings : PublishSettings) (loggedIn : Bool) (listing : List Catalog.Entry) :
    List Task :=
  if loggedIn then listing.flatMap (laterTasks settings) else tasks settings listing

theorem tasksLeft_cons (settings : PublishSettings) (loggedIn : Bool) (entry : Catalog.Entry)
    (rest : List Catalog.Entry) :
    tasksLeft settings loggedIn (entry :: rest) =
      .read entry ::
        match entry.metadata? with
        | none => tasksLeft settings loggedIn rest
        | some metadata =>
          (if loggedIn then [] else [.call (.login settings.credentials)]) ++
            ((imageCalls settings entry.directory metadata).map .call ++
              tasksLeft settings true rest) := by
  cases hmetadata : entry.metadata? with
  | none => cases loggedIn <;> simp [tasksLeft, tasks, laterTasks, hmetadata]
  | some metadata => cases loggedIn <;> simp [tasksLeft, tasks, laterTasks, hmetadata]

/-- A run that logs in first begins with a call. -/
theorem ensureLogin_false_bind {α : Type} (settings : PublishSettings) (engine : Engine)
    (earlier : List Engine.Call) (next : List Engine.Call → Run α) :
    (ensureLogin settings engine false earlier >>= next) =
      (engine.call earlier (.login settings.credentials) >>= fun _ =>
        next (earlier ++ [.login settings.credentials])) := by
  simp [ensureLogin]

/-- The login is made unless it was made before. -/
theorem Follows.ensureLogin {α : Type} {settings : PublishSettings} {engine : Engine}
    (loggedIn : Bool) {earlier : List Engine.Call} {plan : List Task}
    {next : List Engine.Call → Run α} (hnext : ∀ calls, Follows engine calls plan (next calls)) :
    Follows engine earlier
      ((if loggedIn then [] else [.call (.login settings.credentials)]) ++ plan)
      (Publish.ensureLogin settings engine loggedIn earlier >>= next) := by
  cases loggedIn with
  | true => exact hnext earlier
  | false =>
    rw [ensureLogin_false_bind]
    exact Follows.call _ (hnext _)

/-- The run over some directories carries out its plan. -/
theorem entries_follows (settings : PublishSettings) (engine : Engine)
    (listing : List Catalog.Entry) : ∀ (loggedIn : Bool) (earlier : List Engine.Call),
    Follows engine earlier (tasksLeft settings loggedIn listing)
      (entries settings engine loggedIn earlier listing) := by
  -- Both the flag and the calls so far change from one directory to the next.
  induction listing with
  | nil =>
    intro loggedIn earlier
    cases loggedIn <;> exact .pure _
  | cons entry rest ih =>
    intro loggedIn earlier
    rw [entries, tasksLeft_cons]
    refine Follows.attempt rfl rfl fun reading hreading => ?_
    rw [Catalog.Entry.metadata?_of_ok hreading]
    cases reading with
    | none =>
      refine Follows.emit rfl ?_
      exact (ih loggedIn earlier).bind_pure _
    | some metadata =>
      -- From here on the login has been made, whether it was made here or before.
      refine Follows.ensureLogin loggedIn fun calls => ?_
      refine Follows.emit rfl (Follows.call _ (Follows.call _ (Follows.emit rfl ?_)))
      rw [List.append_assoc]
      exact (ih true _).bind_pure _

/-- The run over a catalog carries out its plan. -/
theorem execute_follows (settings : PublishSettings) (catalog : Catalog) (engine : Engine) :
    Follows engine [] (plan settings catalog) (execute settings catalog engine) := by
  rw [execute, plan]
  cases hlisting : catalog.listing with
  | ok listing =>
    obtain ⟨attempted, hcarried, hsteps, hprocesses⟩ :=
      entries_follows settings engine listing false []
    rw [Catalog.listed_of_ok hlisting, Run.take_bind, Run.emit_bind]
    refine ⟨.list catalog :: attempted, .next ?_ hcarried, ?_, ?_⟩
    · rw [Task.outcome, hlisting]
      rfl
    · simpa [Task.step] using hsteps
    · simpa using hprocesses
  | error error =>
    rw [Run.take_bind, Run.emit_bind, Run.ofExcept_error_bind, Run.ofExcept]
    refine ⟨[.list catalog], .stop _ ?_, ?_, ?_⟩
    · rw [Task.outcome, hlisting]
      rfl
    · simp [Task.step]
    · simp [Engine.processesOf]

/-! ## The law of a run -/

/-- With settings that are accepted a run over files is one over the catalog of the tree. -/
theorem run_of_check {settings : PublishSettings} {machine : Machine}
    (hcheck : settings.check = .ok ()) :
    run settings machine =
      execute settings (Catalog.ofTree machine.files settings.jobs)
        (Engine.program machine settings.engine) := by
  rw [run, hcheck]
  rfl

/-- With settings that are refused nothing happens. -/
theorem run_of_check_error {settings : PublishSettings} {machine : Machine}
    {problem : SettingsProblem} (hcheck : settings.check = .error problem) :
    run settings machine = { trace := [], result := .error (.settings problem) } := by
  rw [run, hcheck]
  rfl

/-- The calls of a run are those of the tasks that it took. -/
theorem calls_eq_callsOf {trace : Trace} {attempted : List Task}
    (h : trace.steps = attempted.map Task.step) : trace.calls = callsOf attempted := by
  rw [Trace.calls, h, callsOf, List.filterMap_map]
  exact congrArg (attempted.filterMap ·) (funext Task.call?_step)

/-- A run makes no call that is not planned, and none out of order. -/
theorem calls_planned (settings : PublishSettings) (catalog : Catalog) (engine : Engine) :
    (execute settings catalog engine).trace.calls <+: callsOf (plan settings catalog) := by
  obtain ⟨attempted, hcarried, hsteps, -⟩ := execute_follows settings catalog engine
  rw [calls_eq_callsOf hsteps]
  exact hcarried.isPrefix.filterMap _

/-- The call is the login, or the build or the push of a directory with metadata. -/
theorem mem_calls_execute {settings : PublishSettings} {catalog : Catalog} {engine : Engine}
    {asked : Engine.Call}
    (h : asked ∈ (execute settings catalog engine).trace.calls) :
    asked = .login settings.credentials ∨
      ∃ entry ∈ catalog.listed, ∃ metadata, entry.reading = .ok (some metadata) ∧
        (asked = .build (settings.jobs.image metadata.name) entry.directory.path ∨
          asked = .push (settings.jobs.image metadata.name)) := by
  have hplanned : asked ∈ callsOf (tasks settings catalog.listed) :=
    (calls_planned settings catalog engine).subset h
  rcases callsOf_tasks settings catalog.listed with hnone | hcalls
  · rw [hnone] at hplanned
    cases hplanned
  · rw [hcalls] at hplanned
    rcases List.mem_cons.1 hplanned with hlogin | hjob
    · exact .inl hlogin
    · right
      obtain ⟨⟨directory, metadata⟩, hmem, hasked⟩ := List.mem_flatMap.1 hjob
      obtain ⟨entry, hentry, heq⟩ := List.mem_filterMap.1 hmem
      obtain ⟨metadata', hmetadata, hpair⟩ := Option.map_eq_some_iff.1 heq
      cases hpair
      refine ⟨entry, hentry, metadata, Catalog.Entry.reading_eq_of_metadata? hmetadata, ?_⟩
      simpa [imageCalls] using hasked

/-- The processes of a run are those that its calls start. -/
theorem processes_execute (settings : PublishSettings) (catalog : Catalog) (engine : Engine) :
    (execute settings catalog engine).trace.processes =
      engine.processesOf [] (execute settings catalog engine).trace.calls := by
  obtain ⟨attempted, -, hsteps, hprocesses⟩ := execute_follows settings catalog engine
  rw [calls_eq_callsOf hsteps, hprocesses]

/-- **The law of publishing.**  A run takes the tasks of its plan in order, up to the first that
fails, and ends as that one says; it ends well if none fails.  So there is one login at most, and
before every build; none unless a directory with metadata was read; a push only after its image was
built; and no call for a directory whose metadata cannot be read or for one behind it. -/
theorem execute_carries_out_plan (settings : PublishSettings) (catalog : Catalog)
    (engine : Engine) :
    let run := execute settings catalog engine
    ∃ attempted,
      CarriedOut engine [] (plan settings catalog) attempted (run.result.map fun _ => ()) ∧
      (∀ other ending, CarriedOut engine [] (plan settings catalog) other ending →
        other = attempted ∧ ending = run.result.map fun _ => ()) ∧
      run.trace.steps = attempted.map Task.step ∧
      run.trace.calls = callsOf attempted ∧
      run.trace.calls.countP Engine.Call.isLogin ≤ 1 ∧
      (∀ before image directory after,
        run.trace.calls = before ++ .build image directory :: after →
          .login settings.credentials ∈ before) ∧
      ((∀ entry, .read entry ∈ attempted → entry.metadata? = none) → run.trace.calls = []) ∧
      (∀ before image after, run.trace.calls = before ++ .push image :: after →
        ∃ earlier directory, before = earlier ++ [.build image directory] ∧
          (engine.respond earlier (.build image directory)).result = .ok ()) ∧
      (∀ before entry after error, catalog.listing = .ok (before ++ entry :: after) →
        entry.reading = .error error →
          (∃ cause, run.result = .error cause) ∧
            run.trace.calls <+: callsOf (tasks settings before)) := by
  intro run
  obtain ⟨attempted, hcarried, hsteps, -⟩ := execute_follows settings catalog engine
  have hcalls : run.trace.calls = callsOf attempted := calls_eq_callsOf hsteps
  have hplanned : run.trace.calls <+: callsOf (plan settings catalog) :=
    calls_planned settings catalog engine
  refine ⟨attempted, hcarried, fun _ _ => hcarried.unique, hsteps, hcalls,
    countP_isLogin_le_one hplanned, ?_, ?_, ?_, ?_⟩
  · intro before image directory after h
    rw [h] at hplanned
    exact login_mem_before_build hplanned
  · intro hnone
    rw [hcalls]
    exact callsOf_eq_nil_of_planned hcarried.isPrefix hnone
  · intro before image after h
    rw [h] at hplanned
    obtain ⟨earlier, directory, rfl⟩ := build_last_before_push hplanned
    refine ⟨earlier, directory, rfl, ?_⟩
    rw [hcalls, List.append_assoc] at h
    exact hcarried.call_done h
  · intro before entry after error hlisting hreading
    obtain ⟨⟨cause, hcause⟩, hbefore⟩ := hcarried.stops_at_fault hlisting hreading
    rw [hcalls]
    exact ⟨⟨cause, eq_error_of_map_eq_error hcause⟩, hbefore⟩

end JobImages.Publish
