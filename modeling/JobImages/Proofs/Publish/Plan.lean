import JobImages.Proofs.Readings
import JobImages.Publish

/-!
# The plan of publishing

What publishing sets out to do with a catalog can be written down before anything is called: list
the directories, then read each and build and push the image of each job, with the login before the
first of them.  A plan is carried out as far as its first task that fails.

The engine is arbitrary.  Its answer to a call may depend on all the calls before, so how a task
ends is said relative to those.

## Main definitions

* `Publish.Task` — a task, with the step that it takes and how it ends;
* `Publish.tasks`, `Publish.plan` — the plan for the directories of a catalog, and for a catalog;
* `Publish.CarriedOut` — how far a plan gets, and how it ends.

## Main results

* `Publish.CarriedOut.unique` — there is one way only to carry out a plan;
* `Publish.CarriedOut.call_done`, `Publish.CarriedOut.stops_at` — what lies behind a plan that was
  carried out, and where it stops;
* `Publish.callsOf_plan` — the calls of a plan, of which the login is the first;
* `Publish.CarriedOut.stops_at_fault` — what is called if a directory cannot be read.
-/

namespace JobImages

/-- Whether a call is a login. -/
def Engine.Call.isLogin : Engine.Call → Bool
  | .login _ => true
  | _ => false

namespace Publish

/-- A task of a run. -/
inductive Task where
  /-- To list the directories of a catalog. -/
  | list (catalog : Catalog)
  /-- To read what the metadata file of a directory says. -/
  | read (entry : Catalog.Entry)
  /-- To call the engine. -/
  | call (call : Engine.Call)

namespace Task

/-- The step that a task takes. -/
def step : Task → Step
  | .list _ => .list
  | .read entry => .read entry.directory
  | .call asked => .call asked

/-- The call that a task makes, if it makes one. -/
def call? : Task → Option Engine.Call
  | .call asked => some asked
  | _ => none

/-- How a task ends after some calls. -/
def outcome (engine : Engine) (earlier : List Engine.Call) : Task → Except Error Unit
  | .list catalog => catalog.listing.map fun _ => ()
  | .read entry => entry.reading.map fun _ => ()
  | .call asked => (engine.respond earlier asked).result

theorem call?_step (task : Task) : task.step.call? = task.call? := by
  cases task <;> rfl

end Task

/-- The calls that some tasks make. -/
def callsOf (tasks : List Task) : List Engine.Call :=
  tasks.filterMap Task.call?

@[simp] theorem callsOf_nil : callsOf [] = [] := rfl

@[simp] theorem callsOf_list_cons (catalog : Catalog) (rest : List Task) :
    callsOf (.list catalog :: rest) = callsOf rest := rfl

@[simp] theorem callsOf_read_cons (entry : Catalog.Entry) (rest : List Task) :
    callsOf (.read entry :: rest) = callsOf rest := rfl

@[simp] theorem callsOf_call_cons (asked : Engine.Call) (rest : List Task) :
    callsOf (.call asked :: rest) = asked :: callsOf rest := rfl

@[simp] theorem callsOf_append (first rest : List Task) :
    callsOf (first ++ rest) = callsOf first ++ callsOf rest :=
  List.filterMap_append

@[simp] theorem callsOf_map_call (calls : List Engine.Call) :
    callsOf (calls.map .call) = calls := by
  rw [callsOf, List.filterMap_map]
  exact List.filterMap_some

/-- The calls for a job: its image is built in its directory, and pushed. -/
def imageCalls (settings : PublishSettings) (directory : JobDirectory) (metadata : Metadata) :
    List Engine.Call :=
  let image := settings.jobs.image metadata.name
  [.build image directory.path, .push image]

/-- The tasks for a directory after the login. -/
def laterTasks (settings : PublishSettings) (entry : Catalog.Entry) : List Task :=
  .read entry ::
    match entry.metadata? with
    | none => []
    | some metadata => (imageCalls settings entry.directory metadata).map .call

/-- The tasks for some directories: the login comes with the first job. -/
def tasks (settings : PublishSettings) : List Catalog.Entry → List Task
  | [] => []
  | entry :: rest =>
    .read entry ::
      match entry.metadata? with
      | none => tasks settings rest
      | some metadata =>
        .call (.login settings.credentials) ::
          ((imageCalls settings entry.directory metadata).map .call ++
            rest.flatMap (laterTasks settings))

/-- The tasks for a catalog. -/
def plan (settings : PublishSettings) (catalog : Catalog) : List Task :=
  .list catalog :: tasks settings catalog.listed

/-- `CarriedOut engine earlier plan attempted ending`: after some calls, the tasks of a plan are
taken in order as far as the first that fails. -/
inductive CarriedOut (engine : Engine) :
    List Engine.Call → List Task → List Task → Except Error Unit → Prop where
  /-- No task is left. -/
  | done (earlier : List Engine.Call) : CarriedOut engine earlier [] [] (.ok ())
  /-- A task succeeds, and the others follow. -/
  | next {earlier : List Engine.Call} {task : Task} {rest attempted : List Task}
      {ending : Except Error Unit} (hdone : task.outcome engine earlier = .ok ())
      (hrest : CarriedOut engine (earlier ++ task.call?.toList) rest attempted ending) :
      CarriedOut engine earlier (task :: rest) (task :: attempted) ending
  /-- A task fails, and none follows. -/
  | stop {earlier : List Engine.Call} {task : Task} {error : Error} (rest : List Task)
      (hfails : task.outcome engine earlier = .error error) :
      CarriedOut engine earlier (task :: rest) [task] (.error error)

/-! ## How far a plan gets -/

section CarriedOut

variable {engine : Engine} {earlier : List Engine.Call} {plan attempted : List Task}
  {ending : Except Error Unit}

theorem CarriedOut.isPrefix (h : CarriedOut engine earlier plan attempted ending) :
    attempted <+: plan := by
  induction h with
  | done earlier => exact List.prefix_refl _
  | next hdone hrest ih => exact List.cons_prefix_cons.2 ⟨rfl, ih⟩
  | stop rest hfails => exact List.cons_prefix_cons.2 ⟨rfl, List.nil_prefix⟩

/-- There is one way only to carry out a plan. -/
theorem CarriedOut.unique (h : CarriedOut engine earlier plan attempted ending)
    {other : List Task} {ending' : Except Error Unit}
    (hother : CarriedOut engine earlier plan other ending') :
    other = attempted ∧ ending' = ending := by
  -- A task either succeeds or fails, so the second way cannot leave the first at any task.
  induction h generalizing other ending' with
  | done earlier =>
    cases hother
    exact ⟨rfl, rfl⟩
  | @next earlier task rest attempted ending hdone hrest ih =>
    cases hother with
    | next _ hrest' =>
      obtain ⟨rfl, rfl⟩ := ih hrest'
      exact ⟨rfl, rfl⟩
    | stop _ hfails =>
      rw [hdone] at hfails
      cases hfails
  | @stop earlier task error rest hfails =>
    cases hother with
    | next hdone _ =>
      rw [hfails] at hdone
      cases hdone
    | stop _ hfails' =>
      rw [hfails] at hfails'
      cases hfails'
      exact ⟨rfl, rfl⟩

/-- A call succeeded unless it is the last one and the plan ends with its error. -/
theorem CarriedOut.call_cases (h : CarriedOut engine earlier plan attempted ending)
    {before after : List Engine.Call} {asked : Engine.Call}
    (hcalls : callsOf attempted = before ++ asked :: after) :
    (engine.respond (earlier ++ before) asked).result = .ok () ∨
      after = [] ∧ ∃ error, ending = .error error := by
  -- The calls made before the plan grow along it, so the ones within it are peeled off in front.
  induction h generalizing before with
  | done earlier => simp at hcalls
  | @next earlier task rest attempted ending hdone hrest ih =>
    cases hcall : task.call? with
    | none =>
      rw [callsOf, List.filterMap_cons_none hcall] at hcalls
      simpa [hcall] using ih hcalls
    | some first =>
      rw [callsOf, List.filterMap_cons_some hcall] at hcalls
      cases before with
      | nil =>
        -- The task is the call in question, and it is one that succeeds.
        obtain ⟨rfl, -⟩ := List.cons.inj hcalls
        cases task with
        | list catalog => cases hcall
        | read entry => cases hcall
        | call asked =>
          cases hcall
          exact .inl (by simpa [Task.outcome] using hdone)
      | cons other before =>
        obtain ⟨rfl, htail⟩ := List.cons.inj hcalls
        simpa [hcall] using ih htail
  | @stop earlier task error rest hfails =>
    -- A task makes one call at most, so that nothing comes behind.
    have hlength := congrArg List.length hcalls
    have hle := List.length_filterMap_le Task.call? [task]
    simp only [callsOf, List.length_append, List.length_cons, List.length_nil] at hlength hle
    refine .inr ⟨List.length_eq_zero_iff.1 ?_, error, rfl⟩
    omega

/-- A call that is not the last one succeeded. -/
theorem CarriedOut.call_done (h : CarriedOut engine earlier plan attempted ending)
    {before after : List Engine.Call} {asked next : Engine.Call}
    (hcalls : callsOf attempted = before ++ asked :: next :: after) :
    (engine.respond (earlier ++ before) asked).result = .ok () := by
  rcases h.call_cases hcalls with hdone | ⟨hlast, -⟩
  · exact hdone
  · cases hlast

/-- A plan does not get beyond a task that fails whatever was called before. -/
theorem CarriedOut.stops_at (h : CarriedOut engine earlier plan attempted ending)
    {before after : List Task} {task : Task} {error : Error}
    (hplan : plan = before ++ task :: after)
    (hfails : ∀ calls, task.outcome engine calls = .error error) :
    attempted <+: before ++ [task] ∧ ∃ cause, ending = .error cause := by
  induction h generalizing before with
  | done earlier => simp at hplan
  -- What is done up to here is not the failing task, which therefore lies in the rest.
  | @next earlier first rest attempted ending hdone hrest ih =>
    cases before with
    | nil =>
      obtain ⟨rfl, -⟩ := List.cons.inj hplan
      rw [hfails] at hdone
      cases hdone
    | cons other before =>
      obtain ⟨rfl, htail⟩ := List.cons.inj hplan
      obtain ⟨hplanned, hending⟩ := ih htail
      exact ⟨List.cons_prefix_cons.2 ⟨rfl, hplanned⟩, hending⟩
  | @stop earlier first cause rest hstop =>
    refine ⟨?_, cause, rfl⟩
    cases before with
    | nil =>
      obtain ⟨rfl, -⟩ := List.cons.inj hplan
      exact List.prefix_refl _
    | cons other before =>
      obtain ⟨rfl, -⟩ := List.cons.inj hplan
      exact List.cons_prefix_cons.2 ⟨rfl, List.nil_prefix⟩

end CarriedOut

/-! ## The calls of a plan -/

/-- The directories with metadata, each with that. -/
def jobs : List Catalog.Entry → List (JobDirectory × Metadata) :=
  List.filterMap fun entry => entry.metadata?.map fun metadata => (entry.directory, metadata)

/-- The calls for some jobs, the login apart. -/
def jobCalls (settings : PublishSettings) : List (JobDirectory × Metadata) → List Engine.Call :=
  List.flatMap fun job => imageCalls settings job.1 job.2

theorem jobs_cons_of_none {entry : Catalog.Entry} (rest : List Catalog.Entry)
    (h : entry.metadata? = none) : jobs (entry :: rest) = jobs rest := by
  simp [jobs, h]

theorem jobs_cons_of_some {entry : Catalog.Entry} {metadata : Metadata}
    (rest : List Catalog.Entry) (h : entry.metadata? = some metadata) :
    jobs (entry :: rest) = (entry.directory, metadata) :: jobs rest := by
  simp [jobs, h]

section Calls

variable (settings : PublishSettings)

@[simp] theorem jobCalls_cons (job : JobDirectory × Metadata)
    (rest : List (JobDirectory × Metadata)) :
    jobCalls settings (job :: rest) = imageCalls settings job.1 job.2 ++ jobCalls settings rest :=
  rfl

theorem callsOf_flatMap_laterTasks (listing : List Catalog.Entry) :
    callsOf (listing.flatMap (laterTasks settings)) = jobCalls settings (jobs listing) := by
  induction listing with
  | nil => rfl
  | cons entry rest ih =>
    cases hmetadata : entry.metadata? with
    | none => simp [laterTasks, jobs_cons_of_none rest hmetadata, hmetadata, ih]
    | some metadata => simp [laterTasks, jobs_cons_of_some rest hmetadata, hmetadata, ih]

/-- A plan calls the engine to log in and then for the jobs, or not at all. -/
theorem callsOf_tasks (listing : List Catalog.Entry) :
    callsOf (tasks settings listing) = [] ∨
      callsOf (tasks settings listing) =
        .login settings.credentials :: jobCalls settings (jobs listing) := by
  induction listing with
  | nil => exact .inl rfl
  | cons entry rest ih =>
    cases hmetadata : entry.metadata? with
    | none => simpa [tasks, jobs_cons_of_none rest hmetadata, hmetadata] using ih
    | some metadata =>
      refine .inr ?_
      simp [tasks, jobs_cons_of_some rest hmetadata, hmetadata, callsOf_flatMap_laterTasks]

theorem countP_isLogin_jobCalls (jobs : List (JobDirectory × Metadata)) :
    (jobCalls settings jobs).countP Engine.Call.isLogin = 0 := by
  rw [List.countP_eq_zero]
  intro asked hasked
  obtain ⟨job, -, hjob⟩ := List.mem_flatMap.1 hasked
  simp only [imageCalls, List.mem_cons, List.not_mem_nil, or_false] at hjob
  rcases hjob with rfl | rfl <;> simp [Engine.Call.isLogin]

/-- In front of a push stands the build of the image. -/
theorem build_before_push (jobs : List (JobDirectory × Metadata)) :
    ∀ {before after : List Engine.Call} {image : Image},
      before ++ .push image :: after <+: jobCalls settings jobs →
      ∃ earlier directory, before = earlier ++ [.build image directory] := by
  induction jobs with
  | nil =>
    intro before after image h
    simp [jobCalls] at h
  | cons job rest ih =>
    intro before after image h
    simp only [jobCalls_cons, imageCalls, List.cons_append, List.nil_append] at h
    -- The calls of a job come in pairs: the push is the first one, the second one or a later one.
    match before, h with
    | [], h =>
      obtain ⟨hfirst, -⟩ := List.cons_prefix_cons.1 h
      cases hfirst
    | [first], h =>
      obtain ⟨rfl, hsecond⟩ := List.cons_prefix_cons.1 h
      obtain ⟨himage, -⟩ := List.cons_prefix_cons.1 hsecond
      cases himage
      exact ⟨[], _, rfl⟩
    | first :: second :: before, h =>
      obtain ⟨-, hsecond⟩ := List.cons_prefix_cons.1 h
      obtain ⟨-, hrest⟩ := List.cons_prefix_cons.1 hsecond
      obtain ⟨earlier, directory, rfl⟩ := ih hrest
      exact ⟨first :: second :: earlier, directory, rfl⟩

/-- Before the first directory with metadata no call is planned. -/
theorem callsOf_eq_nil_of_no_metadata (listing : List Catalog.Entry) :
    ∀ attempted, attempted <+: tasks settings listing →
      (∀ entry, .read entry ∈ attempted → entry.metadata? = none) → callsOf attempted = [] := by
  induction listing with
  | nil =>
    intro attempted h _
    rw [List.prefix_nil.1 h]
    rfl
  | cons entry rest ih =>
    intro attempted h hnone
    cases attempted with
    | nil => rfl
    | cons first others =>
      obtain ⟨rfl, hrest⟩ := List.cons_prefix_cons.1 h
      rw [hnone entry List.mem_cons_self] at hrest
      exact ih others hrest fun other hother => hnone other (List.mem_cons_of_mem _ hother)

/-- The plan for some directories goes on with the reading of the next. -/
theorem tasks_append (before : List Catalog.Entry) (entry : Catalog.Entry)
    (after : List Catalog.Entry) :
    ∃ rest, tasks settings (before ++ entry :: after) =
      tasks settings before ++ .read entry :: rest := by
  induction before with
  | nil => exact ⟨_, rfl⟩
  | cons first before ih =>
    obtain ⟨rest, hrest⟩ := ih
    cases hmetadata : first.metadata? with
    | none => exact ⟨rest, by simp [tasks, hmetadata, hrest]⟩
    | some metadata =>
      -- The login is behind, and the tasks of a directory are those of every later one.
      refine ⟨(laterTasks settings entry).tail ++ after.flatMap (laterTasks settings), ?_⟩
      simp [tasks, hmetadata, laterTasks]

/-! ### Calls that were planned -/

variable {settings} {catalog : Catalog}

theorem callsOf_plan (settings : PublishSettings) (catalog : Catalog) :
    callsOf (plan settings catalog) = [] ∨
      ∃ jobs, callsOf (plan settings catalog) =
        .login settings.credentials :: jobCalls settings jobs := by
  rw [plan, callsOf_list_cons]
  exact (callsOf_tasks settings _).imp_right fun h => ⟨_, h⟩

/-- Nothing is called before a directory with metadata is read. -/
theorem callsOf_eq_nil_of_planned {attempted : List Task}
    (h : attempted <+: plan settings catalog)
    (hnone : ∀ entry, .read entry ∈ attempted → entry.metadata? = none) :
    callsOf attempted = [] := by
  cases attempted with
  | nil => rfl
  | cons first others =>
    obtain ⟨rfl, hothers⟩ := List.cons_prefix_cons.1 h
    exact callsOf_eq_nil_of_no_metadata settings _ others hothers fun entry hentry =>
      hnone entry (List.mem_cons_of_mem _ hentry)

/-- A directory that cannot be read ends a plan, and there is no call for it or for those behind
it. -/
theorem CarriedOut.stops_at_fault {engine : Engine} {attempted : List Task}
    {ending : Except Error Unit} {before after : List Catalog.Entry} {entry : Catalog.Entry}
    {error : Error} (h : CarriedOut engine [] (plan settings catalog) attempted ending)
    (hlisting : catalog.listing = .ok (before ++ entry :: after))
    (hreading : entry.reading = .error error) :
    (∃ cause, ending = .error cause) ∧ callsOf attempted <+: callsOf (tasks settings before) := by
  obtain ⟨rest, hrest⟩ := tasks_append settings before entry after
  -- The reading that fails has its place in the plan, right behind the tasks of those before.
  have hplan : plan settings catalog =
      (.list catalog :: tasks settings before) ++ .read entry :: rest := by
    rw [plan, Catalog.listed_of_ok hlisting]
    exact congrArg (Task.list catalog :: ·) hrest
  have hfails : ∀ calls, (Task.read entry).outcome engine calls = .error error := by
    intro calls
    rw [Task.outcome, hreading]
    rfl
  obtain ⟨hstop, hending⟩ := h.stops_at hplan hfails
  refine ⟨hending, ?_⟩
  have hcalls : callsOf attempted <+:
      callsOf (.list catalog :: tasks settings before ++ [.read entry]) := hstop.filterMap _
  simpa using hcalls

theorem countP_isLogin_le_one {calls : List Engine.Call}
    (h : calls <+: callsOf (plan settings catalog)) :
    calls.countP Engine.Call.isLogin ≤ 1 := by
  refine Nat.le_trans h.sublist.countP_le ?_
  rcases callsOf_plan settings catalog with hplan | ⟨jobs, hplan⟩
  · rw [hplan]
    exact Nat.zero_le 1
  · rw [hplan, List.countP_cons, countP_isLogin_jobCalls]
    exact Nat.le_refl 1

/-- What is planned before another call than the login begins with that. -/
theorem eq_login_cons_of_planned {before after : List Engine.Call} {asked : Engine.Call}
    (hasked : asked.isLogin = false)
    (h : before ++ asked :: after <+: callsOf (plan settings catalog)) :
    ∃ jobs others, before = .login settings.credentials :: others ∧
      others ++ asked :: after <+: jobCalls settings jobs := by
  rcases callsOf_plan settings catalog with hplan | ⟨jobs, hplan⟩
  · rw [hplan] at h
    simp at h
  · rw [hplan] at h
    cases before with
    | nil =>
      obtain ⟨rfl, -⟩ := List.cons_prefix_cons.1 h
      cases hasked
    | cons first others =>
      obtain ⟨rfl, hothers⟩ := List.cons_prefix_cons.1 h
      exact ⟨jobs, others, rfl, hothers⟩

theorem login_mem_before_build {before after : List Engine.Call} {image : Image} {directory : Path}
    (h : before ++ .build image directory :: after <+: callsOf (plan settings catalog)) :
    .login settings.credentials ∈ before := by
  obtain ⟨jobs, others, rfl, -⟩ := eq_login_cons_of_planned rfl h
  exact List.mem_cons_self

theorem build_last_before_push {before after : List Engine.Call} {image : Image}
    (h : before ++ .push image :: after <+: callsOf (plan settings catalog)) :
    ∃ earlier directory, before = earlier ++ [.build image directory] := by
  obtain ⟨jobs, others, rfl, hothers⟩ := eq_login_cons_of_planned rfl h
  obtain ⟨earlier, directory, rfl⟩ := build_before_push settings jobs hothers
  exact ⟨_ :: earlier, directory, rfl⟩

/-- A login is made with the credentials of the settings. -/
theorem credentials_of_login_mem {calls : List Engine.Call} {credentials : Credentials}
    (hplanned : calls <+: callsOf (plan settings catalog)) (h : .login credentials ∈ calls) :
    credentials = settings.credentials := by
  have hmem := hplanned.subset h
  rcases callsOf_plan settings catalog with hplan | ⟨jobs, hplan⟩
  · rw [hplan] at hmem
    cases hmem
  · rw [hplan] at hmem
    rcases List.mem_cons.1 hmem with hlogin | hjob
    · cases hlogin
      rfl
    · have hcount := List.countP_eq_zero.1 (countP_isLogin_jobCalls settings jobs) _ hjob
      exact absurd rfl hcount

end Calls

end Publish

end JobImages
