import JobImages.Run

/-!
# Coordinators

A coordinator takes the metadata of all jobs in one batch.  Its answer may depend on the batches
before, so a coordinator is a function of that history.

## Main definitions

* `Coordinator` — how batches are answered;
* `Coordinator.submit` — the run that submits a batch;
* `Coordinator.answering` — a coordinator in memory, which answers always the same.
-/

namespace JobImages

/-- Something that takes job metadata. -/
structure Coordinator where
  /-- The answer to a batch, given those before it in order. -/
  respond : List (List Metadata) → List Metadata → Answer

namespace Coordinator

/-- A submission, as a run. -/
def submit (coordinator : Coordinator) (earlier : List (List Metadata)) (batch : List Metadata) :
    Run Unit :=
  Run.turnTo (.submit batch) (coordinator.respond earlier batch)

/-- The status of an answer that accepts a batch. -/
def accepted : Nat := 201

/-- What an answer with a status and a body means. -/
def verdict (status : Nat) (body : String) : Except Error Unit :=
  if status = accepted then .ok () else .error (.rejected status body)

/-- A coordinator that has no effects and answers every batch with the same status and body, or not
at all. -/
def answering (outcome : Except Http.Failure (Nat × String)) : Coordinator where
  respond _ _ :=
    match outcome with
    | .ok (status, body) => { effects := [], result := verdict status body }
    | .error failure => { effects := [], result := .error (.http failure) }

end Coordinator

end JobImages
