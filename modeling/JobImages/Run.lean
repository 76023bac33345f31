import JobImages.Trace

/-!
# Runs

A run is what happened and how it ended: with a value, or early with an error.  Runs are put one
after the other; once one has ended early, the next does not begin.

Others that a run turns to, the engine and the coordinator, give an `Answer`: effects, and whether
they did what was asked.

## Main definitions

* `Run` — a trace with its end, a monad;
* `Run.take`, `Run.emit`, `Run.ofExcept` — the runs of which others are made;
* `Answer`, `Run.turnTo` — a step that somebody else carries out.
-/

namespace JobImages

/-- What happened, and how it ended. -/
structure Run (α : Type) where
  /-- What happened, in order. -/
  trace : Trace
  /-- The value, or why there is none. -/
  result : Except Error α

namespace Run

/-- One run after another, which begins with the value of the first. -/
def andThen {α β : Type} (first : Run α) (next : α → Run β) : Run β :=
  match first.result with
  | .ok value => { trace := first.trace ++ (next value).trace, result := (next value).result }
  | .error error => { trace := first.trace, result := .error error }

instance : Monad Run where
  pure value := { trace := [], result := .ok value }
  bind := andThen

@[simp] theorem trace_pure {α : Type} (value : α) : (pure value : Run α).trace = [] := rfl

@[simp] theorem result_pure {α : Type} (value : α) : (pure value : Run α).result = .ok value := rfl

theorem trace_bind_of_ok {α β : Type} {first : Run α} {value : α} (next : α → Run β)
    (h : first.result = .ok value) :
    (first >>= next).trace = first.trace ++ (next value).trace := by
  show (andThen first next).trace = _
  simp [andThen, h]

theorem result_bind_of_ok {α β : Type} {first : Run α} {value : α} (next : α → Run β)
    (h : first.result = .ok value) : (first >>= next).result = (next value).result := by
  show (andThen first next).result = _
  simp [andThen, h]

theorem trace_bind_of_error {α β : Type} {first : Run α} {error : Error} (next : α → Run β)
    (h : first.result = .error error) : (first >>= next).trace = first.trace := by
  show (andThen first next).trace = _
  simp [andThen, h]

theorem result_bind_of_error {α β : Type} {first : Run α} {error : Error} (next : α → Run β)
    (h : first.result = .error error) : (first >>= next).result = .error error := by
  show (andThen first next).result = _
  simp [andThen, h]

/-- The run that ends at once. -/
def ofExcept {α : Type} (result : Except Error α) : Run α :=
  { trace := [], result }

/-- The run that is one step. -/
def take (step : Step) : Run Unit :=
  { trace := [.step step], result := .ok () }

/-- The run that is some effects. -/
def emit (effects : List Effect) : Run Unit :=
  { trace := effects.map .effect, result := .ok () }

end Run

/-- What somebody else does when asked. -/
structure Answer where
  /-- What is seen of it. -/
  effects : List Effect
  /-- Whether it was done. -/
  result : Except Error Unit

/-- A step that somebody else carries out. -/
def Run.turnTo (step : Step) (answer : Answer) : Run Unit :=
  { trace := .step step :: answer.effects.map .effect, result := answer.result }

end JobImages
