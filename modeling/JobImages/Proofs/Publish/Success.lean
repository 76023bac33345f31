import JobImages.Proofs.Engine.Commands
import JobImages.Proofs.Publish.Outcome

/-!
# Runs of publishing that succeed

A run succeeds if nothing stands in its way: the catalog can be listed, every directory can be read
and the engine does every call.  Then the whole plan was carried out, so that the images that the
run calls published are those it pushed.

## Main definitions

* `Engine.Call.pushed?` — the image that a call pushes.

## Main results

* `Publish.CarriedOut.complete`, `Publish.CarriedOut.all_done` — a plan that ends well was carried
  out to its end, and all its calls were done;
* `Publish.result_execute_eq_ok_iff` — when a run succeeds;
* `Publish.published_eq_pushed` — what a run that succeeds published.
-/

namespace JobImages

namespace Engine.Call

/-- The image that a call pushes, if it does that. -/
def pushed? : Engine.Call → Option Image
  | .push image => some image
  | _ => none

@[simp] theorem pushed?_login (credentials : Credentials) :
    pushed? (.login credentials) = none := rfl

@[simp] theorem pushed?_build (image : Image) (directory : Path) :
    pushed? (.build image directory) = none := rfl

@[simp] theorem pushed?_push (image : Image) : pushed? (.push image) = some image := rfl

end Engine.Call

namespace Publish

/-! ## Plans that are carried out to their end -/

section CarriedOut

variable {engine : Engine} {earlier : List Engine.Call} {plan attempted : List Task}
  {ending : Except Error Unit}

theorem CarriedOut.complete (h : CarriedOut engine earlier plan attempted ending)
    (hending : ending = .ok ()) : attempted = plan := by
  induction h with
  | done earlier => rfl
  | next hdone hrest ih => rw [ih hending]
  | stop rest hfails => cases hending

/-- In a plan that ends well every call succeeded. -/
theorem CarriedOut.all_done (h : CarriedOut engine earlier plan attempted ending)
    (hending : ending = .ok ()) {before after : List Engine.Call} {asked : Engine.Call}
    (hcalls : callsOf attempted = before ++ asked :: after) :
    (engine.respond (earlier ++ before) asked).result = .ok () := by
  rcases h.call_cases hcalls with hdone | ⟨-, error, herror⟩
  · exact hdone
  · cases hending.symm.trans herror

end CarriedOut

/-! ## The images of a plan -/

theorem pushed_laterTasks (settings : PublishSettings) (listing : List Catalog.Entry) :
    (callsOf (listing.flatMap (laterTasks settings))).filterMap Engine.Call.pushed? =
      listing.filterMap (image? settings.jobs) := by
  induction listing with
  | nil => rfl
  | cons entry rest ih =>
    rw [List.flatMap_cons, callsOf_append, List.filterMap_append, ih]
    cases hmetadata : entry.metadata? with
    | none => simp [laterTasks, image?, hmetadata]
    | some metadata =>
      simp [laterTasks, image?, imageCalls, List.filterMap_cons, hmetadata]

/-- A plan pushes the image of each directory with metadata, in order. -/
theorem pushed_tasks (settings : PublishSettings) (listing : List Catalog.Entry) :
    (callsOf (tasks settings listing)).filterMap Engine.Call.pushed? =
      listing.filterMap (image? settings.jobs) := by
  induction listing with
  | nil => rfl
  | cons entry rest ih =>
    cases hmetadata : entry.metadata? with
    | none => simp [tasks, image?, hmetadata, ih]
    | some metadata =>
      simp [tasks, image?, imageCalls, List.filterMap_cons, hmetadata, pushed_laterTasks]

/-! ## Runs -/

section Execute

variable {settings : PublishSettings} {catalog : Catalog} {engine : Engine}

/-- A run that succeeds makes the calls of its plan. -/
theorem calls_of_ok {outcome : Outcome}
    (h : (execute settings catalog engine).result = .ok outcome) :
    (execute settings catalog engine).trace.calls = callsOf (plan settings catalog) := by
  obtain ⟨attempted, hcarried, hsteps, -⟩ := execute_follows settings catalog engine
  rw [h] at hcarried
  rw [calls_eq_callsOf hsteps, hcarried.complete rfl]

/-- In a run that succeeds the engine does every call. -/
theorem respond_of_ok {outcome : Outcome}
    (h : (execute settings catalog engine).result = .ok outcome) {before after : List Engine.Call}
    {asked : Engine.Call}
    (hcalls : (execute settings catalog engine).trace.calls = before ++ asked :: after) :
    (engine.respond before asked).result = .ok () := by
  obtain ⟨attempted, hcarried, hsteps, -⟩ := execute_follows settings catalog engine
  rw [h] at hcarried
  rw [calls_eq_callsOf hsteps] at hcalls
  exact hcarried.all_done rfl hcalls

/-- A run succeeds if the catalog has no error and the engine does every call that is made. -/
theorem result_execute_eq_ok_iff :
    (∃ outcome, (execute settings catalog engine).result = .ok outcome) ↔
      catalog.fault? = none ∧
        ∀ before asked after,
          (execute settings catalog engine).trace.calls = before ++ asked :: after →
            (engine.respond before asked).result = .ok () := by
  constructor
  · rintro ⟨outcome, houtcome⟩
    exact ⟨(execute_ok houtcome).1, fun before asked after => respond_of_ok houtcome⟩
  · rintro ⟨hfault, hdone⟩
    cases hresult : (execute settings catalog engine).result with
    | ok outcome => exact ⟨outcome, rfl⟩
    | error error =>
      -- The error would be one of the catalog or of the last call, and neither has one.
      rcases execute_error hresult with hcause | ⟨before, asked, hcalls, hfails⟩
      · cases hfault.symm.trans hcause
      · cases (hdone before asked [] hcalls).symm.trans hfails

/-- The images that a run published are those it pushed. -/
theorem published_eq_pushed {outcome : Outcome}
    (h : (execute settings catalog engine).result = .ok outcome) :
    outcome.published =
      (execute settings catalog engine).trace.calls.filterMap Engine.Call.pushed? := by
  rw [calls_of_ok h, plan, callsOf_list_cons, pushed_tasks, (execute_ok h).2]
  rfl

end Execute

end Publish

/-! ## Processes that push -/

namespace Engine

variable {machine : Machine} {name : String} {calls : List Call}

/-- If all calls could be started, each has its process. -/
theorem map_arguments_processesOf
    (h : ∀ asked ∈ calls, ∃ place, start machine name asked = .ok place) (earlier : List Call) :
    (processesOf (program machine name) earlier calls).map (·.arguments) =
      calls.map Call.arguments := by
  have hcommands := congrArg (List.map Prod.fst) (map_processesOf machine name earlier calls)
  rw [List.map_map] at hcommands
  refine hcommands.trans ?_
  clear hcommands
  induction calls with
  | nil => rfl
  | cons asked rest ih =>
    obtain ⟨place, hplace⟩ := h asked List.mem_cons_self
    have hcommand : command? machine name asked = some (asked.arguments, place) := by
      rw [command?, hplace]
    rw [List.filterMap_cons_some hcommand, List.map_cons, List.map_cons,
      ih fun other hother => h other (List.mem_cons_of_mem _ hother)]

/-- The commands of some calls that push are those of the images. -/
theorem filter_push_arguments (calls : List Call) :
    (calls.map Call.arguments).filter (·.head? = some "push") =
      (calls.filterMap Call.pushed?).map fun image => ["push", image.reference] := by
  induction calls with
  | nil => rfl
  | cons asked rest ih =>
    cases asked with
    | login credentials => simpa [Call.arguments, List.filterMap_cons] using ih
    | build image directory => simpa [Call.arguments, List.filterMap_cons] using ih
    | push image => simpa [Call.arguments, List.filterMap_cons] using ih

end Engine

end JobImages
