import JobImages.Proofs.Publish.Outcome

/-!
# Publishing with another engine

A run asks an engine nothing but whether each of its calls is done, and asks in the order of its
plan.  So two engines that agree on the calls of one of the runs lead to the same steps, and the
runs end alike but for what the engines say about the last call when that fails.

What a catalog has to remark is of no account for that.

## Main definitions

* `Engine.AgreeOn` — two engines do the same of some calls.

## Main results

* `Publish.CarriedOut.transfer` — a plan gets as far with either engine;
* `Publish.execute_transfer` — the runs with either engine;
* `Publish.execute_of_listing_eq` — the runs over catalogs with the same listing.
-/

namespace JobImages

/-- The other engine does each of some calls, after those in front, if the first one does. -/
def Engine.AgreeOn (engine other : Engine) (calls : List Engine.Call) : Prop :=
  ∀ before asked after, calls = before ++ asked :: after →
    ((other.respond before asked).result = .ok () ↔ (engine.respond before asked).result = .ok ())

namespace Publish

/-! ## Plans -/

/-- How a plan ends that was carried out with two engines: alike, or each with the error of its
engine at the last call. -/
inductive EndsAlike (engine other : Engine) (calls : List Engine.Call) :
    Except Error Unit → Except Error Unit → Prop where
  | same (ending : Except Error Unit) : EndsAlike engine other calls ending ending
  | failing {before : List Engine.Call} {asked : Engine.Call} {error error' : Error}
      (hcalls : calls = before ++ [asked])
      (hfirst : (engine.respond before asked).result = .error error)
      (hother : (other.respond before asked).result = .error error') :
      EndsAlike engine other calls (.error error) (.error error')

theorem EndsAlike.ok_iff {engine other : Engine} {calls : List Engine.Call}
    {ending ending' : Except Error Unit} (h : EndsAlike engine other calls ending ending') :
    ending' = .ok () ↔ ending = .ok () := by
  cases h with
  | same ending => rfl
  | failing hcalls hfirst hother => simp

section Transfer

variable {engine other : Engine}

/-- A task whose calls the engines agree on is done with the other engine if it is with the
first. -/
theorem Task.outcome_transfer {earlier : List Engine.Call} {task : Task}
    (hagree : ∀ asked, task.call? = some asked →
      ((other.respond earlier asked).result = .ok () ↔
        (engine.respond earlier asked).result = .ok ())) :
    task.outcome other earlier = .ok () ↔ task.outcome engine earlier = .ok () := by
  cases task with
  | list catalog => rfl
  | read entry => rfl
  | call asked => exact hagree asked rfl

/-- A plan gets as far with an engine that agrees with the first on the calls made. -/
theorem CarriedOut.transfer {earlier : List Engine.Call} {plan attempted : List Task}
    {ending : Except Error Unit} (h : CarriedOut engine earlier plan attempted ending)
    {front : List Engine.Call} (hfront : earlier = front)
    (hagree : ∀ before asked after, callsOf attempted = before ++ asked :: after →
      ((other.respond (front ++ before) asked).result = .ok () ↔
        (engine.respond (front ++ before) asked).result = .ok ())) :
    ∃ ending', CarriedOut other earlier plan attempted ending' ∧
      EndsAlike engine other (front ++ callsOf attempted) ending ending' := by
  induction h generalizing front with
  | done earlier => exact ⟨.ok (), .done earlier, .same _⟩
  | @next earlier task rest attempted ending hdone hrest ih =>
    subst hfront
    have hcalls : callsOf (task :: attempted) = task.call?.toList ++ callsOf attempted := by
      cases task <;> rfl
    have htask : task.outcome other earlier = .ok () := by
      refine (Task.outcome_transfer fun asked hasked => ?_).2 hdone
      have hhead := hagree [] asked (callsOf attempted) (by rw [hcalls, hasked]; rfl)
      rwa [List.append_nil] at hhead
    -- The calls that are left are made after one more, if the task was a call.
    obtain ⟨ending', hcarried, halike⟩ := ih rfl fun before asked after hafter => by
      have hlater := hagree (task.call?.toList ++ before) asked after
        (by rw [hcalls, hafter, List.append_assoc])
      rwa [← List.append_assoc] at hlater
    refine ⟨ending', .next htask hcarried, ?_⟩
    rwa [hcalls, ← List.append_assoc]
  | @stop earlier task error rest hfails =>
    subst hfront
    cases task with
    | list catalog => exact ⟨.error error, .stop rest hfails, .same _⟩
    | read entry => exact ⟨.error error, .stop rest hfails, .same _⟩
    | call asked =>
      have hhead := hagree [] asked [] rfl
      rw [List.append_nil] at hhead
      have hfirst : (engine.respond earlier asked).result = .error error := hfails
      cases hother : (other.respond earlier asked).result with
      | ok value =>
        rw [hhead.1 hother] at hfirst
        cases hfirst
      | error error' =>
        exact ⟨.error error', .stop rest hother, .failing rfl hfirst hother⟩

end Transfer

/-! ## Runs -/

section Runs

variable {settings : PublishSettings} {catalog : Catalog} {engine other : Engine}

/-- With an engine that agrees with another on the calls of its run, the same steps are taken, and
the runs end alike. -/
theorem execute_transfer
    (hagree : engine.AgreeOn other (execute settings catalog engine).trace.calls) :
    (execute settings catalog other).trace.steps = (execute settings catalog engine).trace.steps ∧
      EndsAlike engine other (execute settings catalog engine).trace.calls
        ((execute settings catalog engine).result.map fun _ => ())
        ((execute settings catalog other).result.map fun _ => ()) := by
  obtain ⟨attempted, hcarried, hsteps, -⟩ := execute_follows settings catalog engine
  obtain ⟨attempted', hcarried', hsteps', -⟩ := execute_follows settings catalog other
  have hcalls := calls_eq_callsOf hsteps
  rw [hcalls] at hagree
  obtain ⟨ending', hother, halike⟩ := hcarried.transfer rfl hagree
  -- There is one way only to carry out the plan with the other engine.
  obtain ⟨rfl, hending⟩ := hother.unique hcarried'
  rw [hsteps, hsteps', hcalls, hending]
  exact ⟨rfl, halike⟩

/-- The other run achieves the same. -/
theorem result_execute_transfer
    (hagree : engine.AgreeOn other (execute settings catalog engine).trace.calls)
    (outcome : Outcome) :
    (execute settings catalog other).result = .ok outcome ↔
      (execute settings catalog engine).result = .ok outcome := by
  have hends := (execute_transfer hagree).2.ok_iff
  -- What a run achieves depends on the catalog only, so that it is enough that both end well.
  cases hfirst : (execute settings catalog engine).result with
  | ok achieved =>
    rw [hfirst] at hends
    cases hother : (execute settings catalog other).result with
    | ok achieved' => rw [(execute_ok hfirst).2, (execute_ok hother).2]
    | error error =>
      rw [hother] at hends
      simp [Except.map] at hends
  | error error =>
    rw [hfirst] at hends
    cases hother : (execute settings catalog other).result with
    | ok achieved' =>
      rw [hother] at hends
      simp [Except.map] at hends
    | error error' => simp

/-- Catalogs with the same listing are published in the same steps and with the same end. -/
theorem execute_of_listing_eq {catalog' : Catalog} (h : catalog'.listing = catalog.listing) :
    (execute settings catalog' engine).result = (execute settings catalog engine).result ∧
      (execute settings catalog' engine).trace.steps =
        (execute settings catalog engine).trace.steps := by
  simp [execute, h]

end Runs

end Publish

end JobImages
