import JobImages.Engine.Program
import JobImages.Proofs.Runs

/-!
# The processes of an engine

An engine starts processes for its calls.  One that is a program starts one process at most for
each call, and what its processes do is laid down in the order in which they are started.  A call
that starts no process uses up nothing, so that the k-th process behaves as the k-th entry of the
machine's list says, whichever call it belongs to.

## Main definitions

* `Engine.processesOf` — the processes that an engine starts for some calls, after others;
* `Engine.launch?` — the process that a program starts for a call, if it starts one.

## Main results

* `Engine.processes_respond` — the answer of a program starts the process of its call;
* `Engine.getElem?_processesOf` — to which call a process belongs, and how it behaves.
-/

namespace JobImages.Engine

/-- The processes that an engine starts for some calls, after others. -/
def processesOf (engine : Engine) : List Call → List Call → List Launch
  | _, [] => []
  | earlier, asked :: rest =>
    (engine.respond earlier asked).effects.filterMap Effect.process? ++
      processesOf engine (earlier ++ [asked]) rest

theorem processes_call (engine : Engine) (earlier : List Call) (asked : Call) :
    (engine.call earlier asked).trace.processes = processesOf engine earlier [asked] := by
  rw [call, Run.turnTo, Trace.processes_cons_step, Trace.processes_map_effect, processesOf,
    processesOf, List.append_nil]

/-! ## Programs -/

variable {machine : Machine} {name : String}

/-- The process that a program starts for a call after some others, if it starts one. -/
def launch? (machine : Machine) (name : String) (earlier : List Call) (asked : Call) :
    Option Launch :=
  match start machine name asked with
  | .ok place =>
    some
      { arguments := asked.arguments
        directory := place
        input :=
          if (nextBehaviour machine name earlier).readsInput then asked.input? else none }
  | .error _ => none

theorem launch?_of_ok {earlier : List Call} {asked : Call} {place : FileTree.Location}
    (h : start machine name asked = .ok place) :
    launch? machine name earlier asked =
      some
        { arguments := asked.arguments
          directory := place
          input :=
            if (nextBehaviour machine name earlier).readsInput then asked.input? else none } := by
  rw [launch?, h]

theorem launch?_of_error {earlier : List Call} {asked : Call} {cause : SystemError}
    (h : start machine name asked = .error cause) : launch? machine name earlier asked = none := by
  rw [launch?, h]

/-- The answer of a program starts the process of its call and no other. -/
theorem processes_respond (earlier : List Call) (asked : Call) :
    ((program machine name).respond earlier asked).effects.filterMap Effect.process? =
      (launch? machine name earlier asked).toList := by
  cases h : start machine name asked with
  | ok place =>
    rw [launch?_of_ok h]
    simp only [program, h, runProcess]
    split
    · rfl
    · rfl
  | error cause =>
    rw [launch?_of_error h]
    simp only [program, h]
    rfl

/-- A process belongs to a call, and as many processes were started before it as calls before that
could be started. -/
theorem getElem?_processesOf {earlier calls : List Call} {k : Nat} {process : Launch}
    (h : (processesOf (program machine name) earlier calls)[k]? = some process) :
    ∃ before asked after, calls = before ++ asked :: after ∧
      before.countP (starts machine name) = k ∧
      launch? machine name (earlier ++ before) asked = some process := by
  induction calls generalizing earlier k with
  | nil => simp [processesOf] at h
  | cons asked rest ih =>
    rw [processesOf, processes_respond] at h
    cases hstart : start machine name asked with
    | error cause =>
      -- The call uses up nothing, so that the process is the k-th one of the others.
      have hstarts : starts machine name asked = false := by rw [starts, hstart]
      rw [launch?_of_error hstart] at h
      obtain ⟨before, other, after, rfl, hcount, hlaunch⟩ := ih h
      refine ⟨asked :: before, other, after, rfl, ?_, by simpa using hlaunch⟩
      rw [List.countP_cons_of_neg (by simp [hstarts]), hcount]
    | ok place =>
      have hstarts : starts machine name asked = true := by rw [starts, hstart]
      rw [launch?_of_ok hstart] at h
      cases k with
      | zero =>
        refine ⟨[], asked, rest, rfl, rfl, ?_⟩
        rw [List.append_nil, launch?_of_ok hstart]
        simpa using h
      | succ k =>
        -- The call uses up one behaviour, and the process is one of the others.
        obtain ⟨before, other, after, rfl, hcount, hlaunch⟩ := ih (by simpa using h)
        refine ⟨asked :: before, other, after, rfl, ?_, by simpa using hlaunch⟩
        rw [List.countP_cons_of_pos hstarts, hcount]

end JobImages.Engine
