import JobImages.Engine.Basic
import JobImages.Coordinator

/-!
# Composed runs

What is seen of runs that follow each other, in terms of what is seen of each.

## Main results

* `Run.bind_of_ok`, `Run.bind_of_error` — a run after one that ends with a value, or early;
* `Run.result_bind_eq_ok_iff` — when the whole ends with a value;
* runs are a lawful monad.
-/

namespace JobImages

/-! ## Events -/

namespace Trace

@[simp] theorem steps_nil : steps [] = [] := rfl

@[simp] theorem effects_nil : effects [] = [] := rfl

@[simp] theorem steps_cons_step (step : Step) (trace : Trace) :
    steps (.step step :: trace) = step :: steps trace := rfl

@[simp] theorem steps_cons_effect (effect : Effect) (trace : Trace) :
    steps (.effect effect :: trace) = steps trace := rfl

@[simp] theorem effects_cons_step (step : Step) (trace : Trace) :
    effects (.step step :: trace) = effects trace := rfl

@[simp] theorem effects_cons_effect (effect : Effect) (trace : Trace) :
    effects (.effect effect :: trace) = effect :: effects trace := rfl

@[simp] theorem output_cons_step (step : Step) (trace : Trace) :
    output (.step step :: trace) = output trace := rfl

@[simp] theorem errorOutput_cons_step (admits : Log.Record → Bool) (step : Step) (trace : Trace) :
    errorOutput admits (.step step :: trace) = errorOutput admits trace := rfl

@[simp] theorem processes_cons_step (step : Step) (trace : Trace) :
    processes (.step step :: trace) = processes trace := rfl

@[simp] theorem requests_cons_step (step : Step) (trace : Trace) :
    requests (.step step :: trace) = requests trace := rfl

/-- Effects are no steps. -/
@[simp] theorem steps_map_effect (effects : List Effect) :
    steps (effects.map Event.effect) = [] := by
  induction effects with
  | nil => rfl
  | cons effect rest ih => rw [List.map_cons, steps_cons_effect, ih]

@[simp] theorem effects_map_effect (effects : List Effect) :
    Trace.effects (effects.map Event.effect) = effects := by
  induction effects with
  | nil => rfl
  | cons effect rest ih => rw [List.map_cons, effects_cons_effect, ih]

@[simp] theorem batches_map_effect (effects : List Effect) :
    batches (effects.map Event.effect) = [] := by
  rw [batches, steps_map_effect]
  rfl

@[simp] theorem calls_map_effect (effects : List Effect) : calls (effects.map .effect) = [] := by
  rw [calls, steps_map_effect]
  rfl

@[simp] theorem errorOutput_map_effect (admits : Log.Record → Bool) (effects : List Effect) :
    errorOutput admits (effects.map .effect) = effects.flatMap (Effect.errorOutput admits) := by
  rw [errorOutput, effects_map_effect]

@[simp] theorem output_map_effect (effects : List Effect) :
    output (effects.map Event.effect) = effects.flatMap Effect.output := by
  rw [output, effects_map_effect]

@[simp] theorem requests_map_effect (effects : List Effect) :
    requests (effects.map Event.effect) = effects.filterMap Effect.request? := by
  rw [requests, effects_map_effect]

@[simp] theorem processes_map_effect (effects : List Effect) :
    processes (effects.map Event.effect) = effects.filterMap Effect.process? := by
  rw [processes, effects_map_effect]

/-! ### Remarks -/

/-- Remarks are no steps. -/
@[simp] theorem steps_map_logged (records : List Log.Record) :
    steps (records.map (Event.effect ∘ Effect.logged)) = [] := by
  rw [← List.map_map, steps_map_effect]

@[simp] theorem output_map_logged (records : List Log.Record) :
    output (records.map (Event.effect ∘ Effect.logged)) = [] := by
  rw [← List.map_map, output_map_effect, List.flatMap_eq_nil_iff]
  simp [Effect.output]

@[simp] theorem processes_map_logged (records : List Log.Record) :
    processes (records.map (Event.effect ∘ Effect.logged)) = [] := by
  rw [← List.map_map, processes_map_effect, List.filterMap_eq_nil_iff]
  simp [Effect.process?]

@[simp] theorem requests_map_logged (records : List Log.Record) :
    requests (records.map (Event.effect ∘ Effect.logged)) = [] := by
  rw [← List.map_map, requests_map_effect, List.filterMap_eq_nil_iff]
  simp [Effect.request?]

end Trace

/-! ## Runs -/

namespace Run

variable {α β : Type}

@[ext] theorem ext {run other : Run α} (htrace : run.trace = other.trace)
    (hresult : run.result = other.result) : run = other := by
  cases run
  cases other
  cases htrace
  cases hresult
  rfl

theorem bind_of_ok {first : Run α} {value : α} (next : α → Run β)
    (h : first.result = .ok value) :
    (first >>= next) =
      { trace := first.trace ++ (next value).trace, result := (next value).result } :=
  Run.ext (trace_bind_of_ok next h) (result_bind_of_ok next h)

theorem bind_of_error {first : Run α} {error : Error} (next : α → Run β)
    (h : first.result = .error error) :
    (first >>= next) = { trace := first.trace, result := .error error } :=
  Run.ext (trace_bind_of_error next h) (result_bind_of_error next h)

theorem result_bind_eq_ok_iff {first : Run α} {next : α → Run β} {value : β} :
    (first >>= next).result = .ok value ↔
      ∃ middle, first.result = .ok middle ∧ (next middle).result = .ok value := by
  cases h : first.result with
  | ok middle =>
    rw [result_bind_of_ok next h]
    constructor
    · intro hnext
      exact ⟨middle, rfl, hnext⟩
    · rintro ⟨_, hmiddle, hnext⟩
      cases hmiddle
      exact hnext
  | error cause =>
    rw [result_bind_of_error next h]
    constructor
    · intro hnext
      cases hnext
    · rintro ⟨_, hmiddle, _⟩
      cases hmiddle

/-! ### Runs that begin in a known way -/

@[simp] theorem take_bind (step : Step) (next : Unit → Run α) :
    (take step >>= next) =
      { trace := .step step :: (next ()).trace, result := (next ()).result } := rfl

@[simp] theorem emit_bind (effects : List Effect) (next : Unit → Run α) :
    (emit effects >>= next) =
      { trace := effects.map .effect ++ (next ()).trace, result := (next ()).result } := rfl

@[simp] theorem ofExcept_ok_bind (value : α) (next : α → Run β) :
    (ofExcept (.ok value) >>= next) = next value := rfl

@[simp] theorem ofExcept_error_bind (error : Error) (next : α → Run β) :
    (ofExcept (.error error) >>= next) = ofExcept (.error error) := rfl

instance : LawfulMonad Run :=
  LawfulMonad.mk' Run
    (fun run => by
      show (run >>= fun value => pure value) = run
      cases h : run.result with
      | ok value =>
        rw [bind_of_ok _ h]
        exact Run.ext (List.append_nil _) h.symm
      | error error =>
        rw [bind_of_error _ h]
        exact Run.ext rfl h.symm)
    (fun _ _ => rfl)
    (fun run next last => by
      cases h : run.result with
      | ok value =>
        rw [bind_of_ok next h, bind_of_ok _ h]
        cases hnext : (next value).result with
        | ok middle =>
          rw [bind_of_ok last hnext]
          exact Run.ext (List.append_assoc _ _ _) rfl
        | error error => rw [bind_of_error last hnext]; rfl
      | error error => rw [bind_of_error next h, bind_of_error _ h]; rfl)

/-! ### Values worked out of others -/

/-- To work something out of a value shows nothing. -/
theorem map_eq (f : α → β) (run : Run α) :
    f <$> run = { trace := run.trace, result := run.result.map f } := by
  rw [← bind_pure_comp]
  cases h : run.result with
  | ok value =>
    rw [bind_of_ok _ h]
    exact Run.ext (List.append_nil _) rfl
  | error error => exact bind_of_error _ h

@[simp] theorem trace_map (f : α → β) (run : Run α) : (f <$> run).trace = run.trace := by
  rw [map_eq]

@[simp] theorem result_map (f : α → β) (run : Run α) :
    (f <$> run).result = run.result.map f := by
  rw [map_eq]

end Run

end JobImages
