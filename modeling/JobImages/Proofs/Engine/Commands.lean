import JobImages.Proofs.Engine.Launches

/-!
# Commands and how they are judged

A call to an engine that is a program is one command: a line that is echoed and, if it can be
started, a process.  The command succeeds if the process exits with code zero, and there is no other
success.

## Main definitions

* `Engine.isRelative` — a program that is given as a path from the directory of its process;
* `Engine.Succeeds` — a command starts and its process exits with code zero;
* `Engine.failure?` — why a command does not succeed;
* `Engine.command?` — the command of a call as its process sees it.

## Main results

* `Engine.start_error_cases` — why a command is not started;
* `Engine.result_respond`, `Engine.result_respond_eq_ok_iff` — how a command is judged;
* `Engine.map_processesOf` — the processes are the commands that could be started.
-/

namespace JobImages.Engine

/-! ## Why a command is not started -/

section Start

variable {machine : Machine} {name : String} {asked : Call}

/-- A command that is started has a directory, and a program that can be started from there. -/
theorem of_start {place : FileTree.Location} (h : start machine name asked = .ok place) :
    workingDirectory machine asked = .ok place ∧ programFault? machine place name = none := by
  unfold start at h
  split at h
  · cases h
  · split at h
    · cases h
    · next found hfound =>
      split at h
      · cases h
      · next hfault =>
        split at h
        · cases h
        · cases h
          exact ⟨hfound, hfault⟩

/-- A command runs in the directory that its call names. -/
theorem workingDirectory_of_start {place : FileTree.Location}
    (h : start machine name asked = .ok place) : workingDirectory machine asked = .ok place :=
  (of_start h).1

/-- A command is not started for a character that no argument can have, for the directory, or, seen
from there, for the program or for the length of an argument. -/
theorem start_error_cases {cause : SystemError} (h : start machine name asked = .error cause) :
    (cause = .nulInArgument ∧
      (hasNul name ∨ asked.arguments.any hasNul ∨ asked.directory?.any (hasNul ·.text))) ∨
    workingDirectory machine asked = .error cause ∨
    ∃ place, workingDirectory machine asked = .ok place ∧
      (programFault? machine place name = some cause ∨
        programFault? machine place name = none ∧ cause = .argumentsTooLong ∧
          asked.arguments.any isTooLongArgument) := by
  unfold start at h
  split at h
  · next hnul =>
    cases h
    exact .inl ⟨rfl, by simpa [or_assoc] using hnul⟩
  · split at h
    · next hdirectory =>
      cases h
      exact .inr (.inl hdirectory)
    · next place hplace =>
      refine .inr (.inr ⟨place, hplace, ?_⟩)
      split at h
      · next hfault =>
        cases h
        exact .inl hfault
      · next hfault =>
        split at h
        · next hlong =>
          cases h
          exact .inr ⟨hfault, rfl, hlong⟩
        · cases h

/-- Whether a program is given as a path that is followed from the directory of its process. -/
def isRelative (program : String) : Bool :=
  program.toList.contains '/' && !Path.isAbsolute ⟨program⟩

/-- Every other program is the same from every directory. -/
theorem programFault?_of_not_relative (h : isRelative name = false)
    (place other : FileTree.Location) :
    programFault? machine other name = programFault? machine place name := by
  unfold programFault?
  cases hpath : name.toList.contains '/' with
  | false => rfl
  | true =>
    rw [isRelative, hpath, Bool.true_and, Bool.not_eq_false'] at h
    rw [if_pos rfl, if_pos rfl, pathFault?, pathFault?, FileTree.resolveFrom, FileTree.resolveFrom,
      FileTree.startOf, FileTree.startOf, if_pos h, if_pos h]

end Start

/-! ## How a command is judged -/

theorem Ending.isSuccess_iff {ending : Ending} : ending.isSuccess = true ↔ ending = .exited 0 := by
  cases ending with
  | exited code => simp [isSuccess]
  | signalled number => simp [isSuccess]

section

variable (machine : Machine) (name : String) (earlier : List Call) (asked : Call)

/-- The command for a call after some others starts, and its process exits with code zero. -/
def Succeeds : Prop :=
  (∃ place, start machine name asked = .ok place) ∧
    (nextBehaviour machine name earlier).ending = .exited 0

/-- Why the command for a call after some others does not succeed, if it does not. -/
def failure? : Option Failure :=
  match start machine name asked with
  | .ok _ =>
    let ending := (nextBehaviour machine name earlier).ending
    if ending.isSuccess then none else some (.ended ending)
  | .error cause => some (.notStarted cause)

/-- A failure is reported with the command as it was echoed. -/
theorem result_respond :
    ((program machine name).respond earlier asked).result =
      match failure? machine name earlier asked with
      | none => .ok ()
      | some failure => .error (.engineFailed (commandLine name asked) failure) := by
  cases hstart : start machine name asked with
  | error cause => simp only [program, failure?, hstart]
  | ok place =>
    simp only [program, failure?, hstart, runProcess]
    split <;> rfl

theorem failure?_eq_none_iff :
    failure? machine name earlier asked = none ↔ Succeeds machine name earlier asked := by
  unfold failure? Succeeds
  cases hstart : start machine name asked with
  | error cause => simp
  | ok place => simp [← Ending.isSuccess_iff]

/-- A call is done if its command succeeds. -/
theorem result_respond_eq_ok_iff :
    ((program machine name).respond earlier asked).result = .ok () ↔
      Succeeds machine name earlier asked := by
  rw [result_respond, ← failure?_eq_none_iff]
  cases failure? machine name earlier asked with
  | none => simp
  | some failure => simp

/-- The first thing that is seen of a command is its line. -/
theorem effects_respond :
    ∃ rest, ((program machine name).respond earlier asked).effects =
      .printed (commandLine name asked) :: rest := by
  cases hstart : start machine name asked with
  | error cause =>
    simp only [program, hstart]
    exact ⟨_, rfl⟩
  | ok place =>
    simp only [program, hstart]
    exact ⟨_, rfl⟩

variable {machine name earlier asked}

theorem exists_failure_of_respond {error : Error}
    (h : ((program machine name).respond earlier asked).result = .error error) :
    ∃ failure, error = .engineFailed (commandLine name asked) failure := by
  rw [result_respond] at h
  cases hfailure : failure? machine name earlier asked with
  | none =>
    rw [hfailure] at h
    cases h
  | some failure =>
    rw [hfailure] at h
    cases h
    exact ⟨failure, rfl⟩

/-- No other line is printed for a command. -/
theorem text_of_printed_respond {text : String}
    (h : .printed text ∈ ((program machine name).respond earlier asked).effects) :
    text = commandLine name asked := by
  cases hstart : start machine name asked with
  | error cause => simpa [program, hstart] using h
  | ok place =>
    simp only [program, hstart, runProcess] at h
    split at h
    · simpa using h
    · simpa using h

end

/-! ## The commands that are started -/

/-- The arguments of a call's process and the directory in which it runs, if it can be started. -/
def command? (machine : Machine) (name : String) (asked : Call) :
    Option (List String × FileTree.Location) :=
  match start machine name asked with
  | .ok place => some (asked.arguments, place)
  | .error _ => none

theorem command?_eq_some {machine : Machine} {name : String} {asked : Call}
    {command : List String × FileTree.Location} (h : command? machine name asked = some command) :
    command.1 = asked.arguments ∧ workingDirectory machine asked = .ok command.2 := by
  unfold command? at h
  split at h
  · next place heq =>
    cases h
    exact ⟨rfl, workingDirectory_of_start heq⟩
  · cases h

/-- Apart from what they read, the processes of a program are the commands that could be started, in
order. -/
theorem map_processesOf (machine : Machine) (name : String) (earlier calls : List Call) :
    (processesOf (program machine name) earlier calls).map
        (fun process => (process.arguments, process.directory)) =
      calls.filterMap (command? machine name) := by
  induction calls generalizing earlier with
  | nil => rfl
  | cons asked rest ih =>
    rw [processesOf, processes_respond, List.map_append, ih]
    cases hstart : start machine name asked with
    | ok place =>
      have hcommand : command? machine name asked = some (asked.arguments, place) := by
        rw [command?, hstart]
      rw [launch?_of_ok hstart, List.filterMap_cons_some hcommand]
      rfl
    | error cause =>
      have hcommand : command? machine name asked = none := by rw [command?, hstart]
      rw [launch?_of_error hstart, List.filterMap_cons_none hcommand]
      rfl

end JobImages.Engine
