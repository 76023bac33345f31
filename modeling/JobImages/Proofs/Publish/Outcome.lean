import JobImages.Proofs.Publish.Law

/-!
# The outcome of publishing

What a run achieves is settled by what the catalog says, as long as no call of the engine fails.  A
run that ends early ends with the first error of the catalog or with that of its last call.

## Main definitions

* `Publish.Outcome.ofListing` — what there is to achieve with some directories;
* `Engine.LastFails` — the last of some calls fails.

## Main results

* `Publish.execute_ok` — a run that ends well met no error and achieved all there was;
* `Publish.execute_error` — where the error of a run comes from.
-/

namespace JobImages

/-- The last of some calls fails, with the given error. -/
def Engine.LastFails (engine : Engine) (calls : List Engine.Call) (error : Error) : Prop :=
  ∃ before asked, calls = before ++ [asked] ∧ (engine.respond before asked).result = .error error

namespace Publish

/-- The image of a directory's job, if it has metadata. -/
def image? (settings : JobSettings) (entry : Catalog.Entry) : Option Image :=
  entry.metadata?.map fun metadata => settings.image metadata.name

/-- The outcome when every job of some directories is published. -/
def Outcome.ofListing (settings : JobSettings) (listing : List Catalog.Entry) : Outcome :=
  { published := listing.filterMap (image? settings)
    skipped := (listing.filter (·.metadata?.isNone)).map (·.directory.path) }

theorem Outcome.ofListing_cons_of_none (settings : JobSettings) {entry : Catalog.Entry}
    (rest : List Catalog.Entry) (h : entry.metadata? = none) :
    ofListing settings (entry :: rest) =
      (ofListing settings rest).skipping entry.directory.path := by
  simp [ofListing, skipping, image?, h]

theorem Outcome.ofListing_cons_of_some (settings : JobSettings) {entry : Catalog.Entry}
    {metadata : Metadata} (rest : List Catalog.Entry) (h : entry.metadata? = some metadata) :
    ofListing settings (entry :: rest) =
      (ofListing settings rest).publishing (settings.image metadata.name) := by
  simp [ofListing, publishing, image?, h]

/-! ## Runs that end well -/

/-- A run over some directories that ends well met no error and achieved all there was. -/
theorem entries_ok (settings : PublishSettings) (engine : Engine) (listing : List Catalog.Entry) :
    ∀ (loggedIn : Bool) (earlier : List Engine.Call) {outcome : Outcome},
      (entries settings engine loggedIn earlier listing).result = .ok outcome →
      Catalog.firstFault? listing = none ∧ outcome = .ofListing settings.jobs listing := by
  induction listing with
  | nil =>
    intro loggedIn earlier outcome h
    cases h
    exact ⟨rfl, rfl⟩
  | cons entry rest ih =>
    intro loggedIn earlier outcome h
    rw [entries] at h
    cases hreading : entry.reading with
    | error error =>
      rw [hreading] at h
      cases h
    | ok reading =>
      have hmetadata := Catalog.Entry.metadata?_of_ok hreading
      rw [hreading] at h
      rw [Catalog.firstFault?_cons_of_ok rest hreading]
      cases reading with
      | none =>
        simp only [Run.take_bind, Run.ofExcept_ok_bind, Run.emit_bind] at h
        obtain ⟨others, hothers, houtcome⟩ := Run.result_bind_eq_ok_iff.1 h
        cases houtcome
        obtain ⟨hfault, rfl⟩ := ih _ _ hothers
        exact ⟨hfault, (Outcome.ofListing_cons_of_none settings.jobs rest hmetadata).symm⟩
      | some metadata =>
        -- Only the last part of the run bears on its value; that the others succeed is not needed.
        simp only [Run.take_bind, Run.ofExcept_ok_bind, Run.result_bind_eq_ok_iff] at h
        obtain ⟨calls, -, -, -, -, -, -, -, -, -, others, hothers, houtcome⟩ := h
        cases houtcome
        obtain ⟨hfault, rfl⟩ := ih _ _ hothers
        exact ⟨hfault, (Outcome.ofListing_cons_of_some settings.jobs rest hmetadata).symm⟩

/-- A run that ends well met no error and achieved all there was. -/
theorem execute_ok {settings : PublishSettings} {catalog : Catalog} {engine : Engine}
    {outcome : Outcome} (h : (execute settings catalog engine).result = .ok outcome) :
    catalog.fault? = none ∧ outcome = .ofListing settings.jobs catalog.listed := by
  rw [execute] at h
  cases hlisting : catalog.listing with
  | error error =>
    rw [hlisting] at h
    cases h
  | ok listing =>
    rw [hlisting] at h
    rw [Catalog.listed_of_ok hlisting, Catalog.fault?, hlisting]
    exact entries_ok settings engine listing false [] h

/-! ## Runs that end early -/

/-- The directory that a task reads, if it reads one. -/
def Task.read? : Task → Option Catalog.Entry
  | .read entry => some entry
  | _ => none

/-- The directories that some tasks read. -/
def readsOf (tasks : List Task) : List Catalog.Entry :=
  tasks.filterMap Task.read?

@[simp] theorem readsOf_list_cons (catalog : Catalog) (rest : List Task) :
    readsOf (.list catalog :: rest) = readsOf rest := rfl

@[simp] theorem readsOf_read_cons (entry : Catalog.Entry) (rest : List Task) :
    readsOf (.read entry :: rest) = entry :: readsOf rest := rfl

@[simp] theorem readsOf_call_cons (asked : Engine.Call) (rest : List Task) :
    readsOf (.call asked :: rest) = readsOf rest := rfl

@[simp] theorem readsOf_append (first rest : List Task) :
    readsOf (first ++ rest) = readsOf first ++ readsOf rest :=
  List.filterMap_append

@[simp] theorem readsOf_map_call (calls : List Engine.Call) : readsOf (calls.map .call) = [] := by
  induction calls with
  | nil => rfl
  | cons asked rest ih => rw [List.map_cons, readsOf_call_cons, ih]

theorem readsOf_flatMap_laterTasks (settings : PublishSettings) (listing : List Catalog.Entry) :
    readsOf (listing.flatMap (laterTasks settings)) = listing := by
  induction listing with
  | nil => rfl
  | cons entry rest ih => cases h : entry.metadata? <;> simp [laterTasks, h, ih]

/-- A plan reads every directory once, in order. -/
theorem readsOf_tasks (settings : PublishSettings) (listing : List Catalog.Entry) :
    readsOf (tasks settings listing) = listing := by
  induction listing with
  | nil => rfl
  | cons entry rest ih =>
    cases h : entry.metadata? with
    | none => simp [tasks, h, ih]
    | some metadata => simp [tasks, h, readsOf_flatMap_laterTasks]

/-- A plan that ends early does so at a task that fails, all directories before it being read. -/
theorem CarriedOut.last_fails {engine : Engine} {earlier : List Engine.Call}
    {plan attempted : List Task} {ending : Except Error Unit}
    (h : CarriedOut engine earlier plan attempted ending) {error : Error}
    (hending : ending = .error error) :
    ∃ before task, attempted = before ++ [task] ∧
      task.outcome engine (earlier ++ callsOf before) = .error error ∧
      ∀ entry ∈ readsOf before, entry.fault? = none := by
  -- The induction is on how far the plan gets: what is done joins the tasks in front.
  induction h with
  | done earlier => cases hending
  | @next earlier task rest attempted ending hdone hrest ih =>
    obtain ⟨before, last, rfl, hfails, hreads⟩ := ih hending
    refine ⟨task :: before, last, rfl, ?_, ?_⟩
    · cases task <;> simpa [Task.call?] using hfails
    · cases task with
      | list catalog => exact hreads
      | call asked => exact hreads
      | read entry =>
        intro other hother
        rcases List.mem_cons.1 hother with rfl | hother
        · cases hreading : other.reading with
          | ok reading => exact Catalog.Entry.fault?_of_ok hreading
          | error cause =>
            rw [Task.outcome, hreading] at hdone
            cases hdone
        · exact hreads other hother
  | @stop earlier task cause rest hfails =>
    cases hending
    refine ⟨[], task, rfl, ?_, ?_⟩
    · simpa using hfails
    · intro entry hentry
      cases hentry

/-- A catalog is listed once. -/
theorem list_not_mem_tasks (settings : PublishSettings) (listing : List Catalog.Entry)
    (catalog : Catalog) : .list catalog ∉ tasks settings listing := by
  have hlater : ∀ entry, .list catalog ∉ laterTasks settings entry := by
    intro entry
    cases h : entry.metadata? <;> simp [laterTasks, h]
  induction listing with
  | nil => exact List.not_mem_nil
  | cons entry rest ih =>
    cases h : entry.metadata? with
    | none => simpa [tasks, h] using ih
    | some metadata => simp [tasks, h, hlater]

/-- The error of a run is the first of the catalog or that of the last call. -/
theorem execute_error {settings : PublishSettings} {catalog : Catalog} {engine : Engine}
    {error : Error} (h : (execute settings catalog engine).result = .error error) :
    catalog.fault? = some error ∨
      engine.LastFails (execute settings catalog engine).trace.calls error := by
  obtain ⟨attempted, hcarried, hsteps, -⟩ := execute_follows settings catalog engine
  have hplanned := hcarried.isPrefix
  rw [h] at hcarried
  obtain ⟨before, task, rfl, hfails, hreads⟩ := hcarried.last_fails rfl
  -- The task that fails is the listing, a reading or a call; the first two are the catalog's.
  cases task with
  | list other =>
    left
    cases before with
    | nil =>
      obtain ⟨hother, -⟩ := List.cons_prefix_cons.1 hplanned
      cases hother
      exact Catalog.fault?_of_error (eq_error_of_map_eq_error hfails)
    | cons first before =>
      obtain ⟨-, hrest⟩ := List.cons_prefix_cons.1 hplanned
      exact absurd (hrest.subset (by simp)) (list_not_mem_tasks settings catalog.listed other)
  | read entry =>
    left
    -- The directories read by then are those in front of the one that cannot be read.
    obtain ⟨after, hafter⟩ := hplanned.filterMap Task.read?
    have hlisted : catalog.listed = readsOf before ++ entry :: after := by
      rw [← readsOf_tasks settings catalog.listed, ← readsOf_list_cons catalog]
      refine hafter.symm.trans ?_
      simp [readsOf, Task.read?]
    exact Catalog.fault?_of_listed hlisted hreads (eq_error_of_map_eq_error hfails)
  | call asked =>
    refine .inr ⟨callsOf before, asked, ?_, hfails⟩
    rw [calls_eq_callsOf hsteps]
    simp

end Publish

end JobImages
