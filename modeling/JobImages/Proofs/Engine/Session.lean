import JobImages.Proofs.Engine.Commands
import JobImages.Proofs.Sessions

/-!
# Many commands of one engine

Whoever gives a program several commands may go on after a failure.  Each command is a line and,
if it can be started, a process; the lines stand in the output in front of what their processes
write.  A process takes its behaviour from the machine's list by the number of those before it.  So
a command that could not be started is as good as none for those behind it, and whatever becomes of
a command, the lines and the processes of the others stay what they are.

## Main definitions

* `Engine.processOutput` — what the process of a command writes to the output.

## Main results

* `Engine.effects_program` — all that is seen of one command;
* `Engine.session_congr` — a session depends on the commands before it by how many were started;
* `Engine.commands_echoed_and_judged` — the law of sessions.
-/

namespace JobImages.Engine

/-! ## One command -/

theorem effects_call (engine : Engine) (earlier : List Call) (asked : Call) :
    (engine.call earlier asked).trace.effects = (engine.respond earlier asked).effects := by
  simp [call, Run.turnTo]

theorem output_call (engine : Engine) (earlier : List Call) (asked : Call) :
    (engine.call earlier asked).trace.output =
      (engine.respond earlier asked).effects.flatMap Effect.output := by
  rw [Trace.output, effects_call]

/-- The exit code that counts is what is left of it in eight bits. -/
theorem Ending.ofCode_eq_exited_zero_iff {code : Int} :
    Ending.ofCode code = .exited 0 ↔ code % 256 = 0 := by
  have hnonneg : 0 ≤ code % 256 := Int.emod_nonneg _ (by decide)
  rw [ofCode, Ending.exited.injEq]
  omega

theorem commandLine_eq_intercalate (name : String) (asked : Call) :
    commandLine name asked = " ".intercalate (name :: asked.arguments) := by
  cases asked <;> simp [commandLine, Call.arguments, String.intercalate_cons_cons]

section Command

variable (machine : Machine) (name : String) (earlier : List Call) (asked : Call)

/-- What the process of a command that follows others writes to the output. -/
def processOutput : List UInt8 :=
  if starts machine name asked then (nextBehaviour machine name earlier).output else []

/-- All that is seen of a command behind its line. -/
def behindLine : List Effect :=
  .logged (spawning name asked) ::
    match start machine name asked with
    | .ok place => (runProcess name place (nextBehaviour machine name earlier) asked).effects
    | .error _ => []

/-- A command is seen as its line and what is behind that. -/
theorem effects_program :
    ((program machine name).respond earlier asked).effects =
      .printed (commandLine name asked) :: behindLine machine name earlier asked := by
  cases hstart : start machine name asked <;> simp [program, behindLine, hstart]

/-- No second line is printed. -/
theorem printed_not_mem_behindLine (text : String) :
    .printed text ∉ behindLine machine name earlier asked := by
  unfold behindLine
  cases start machine name asked with
  | error cause => simp
  | ok place =>
    simp only [runProcess]
    split <;> simp

/-- Behind the line stands what the process writes, and nothing else that goes to the output. -/
theorem output_behindLine :
    (behindLine machine name earlier asked).flatMap Effect.output =
      processOutput machine name earlier asked := by
  unfold behindLine processOutput starts
  cases start machine name asked with
  | error cause => simp [Effect.output]
  | ok place =>
    simp only [runProcess]
    split <;> simp [Effect.output]

theorem output_program :
    ((program machine name).call earlier asked).trace.output =
      Effect.lineBytes (commandLine name asked) ++ processOutput machine name earlier asked := by
  rw [output_call, effects_program, List.flatMap_cons, output_behindLine]
  rfl

theorem processes_program :
    ((program machine name).call earlier asked).trace.processes =
      (launch? machine name earlier asked).toList := by
  rw [Trace.processes, effects_call, processes_respond]

end Command

/-! ## Commands after others -/

section Earlier

variable {machine : Machine} {name : String}

/-- An answer depends on the commands before it by how many were started. -/
theorem respond_congr {earlier other : List Call}
    (h : earlier.countP (starts machine name) = other.countP (starts machine name)) :
    (program machine name).respond earlier = (program machine name).respond other := by
  have hbehaviour : nextBehaviour machine name earlier = nextBehaviour machine name other := by
    rw [nextBehaviour, nextBehaviour, h]
  funext asked
  simp only [program, hbehaviour]

/-- So does a whole session. -/
theorem session_congr (calls : List Call) :
    ∀ {earlier other : List Call},
      earlier.countP (starts machine name) = other.countP (starts machine name) →
        session (program machine name).call earlier calls =
          session (program machine name).call other calls := by
  induction calls with
  | nil => exact fun _ => rfl
  | cons asked rest ih =>
    intro earlier other h
    have hnext : (earlier ++ [asked]).countP (starts machine name) =
        (other ++ [asked]).countP (starts machine name) := by
      rw [List.countP_append, List.countP_append, h]
    rw [session, session, call, call, respond_congr h, ih hnext]

/-- A session in which a command cannot be started is, but for that command, the session without
it. -/
theorem eraseIdx_session {before after : List Call} {asked : Call} {cause : SystemError}
    (h : start machine name asked = .error cause) :
    (session (program machine name).call [] (before ++ asked :: after)).eraseIdx before.length =
      session (program machine name).call [] (before ++ after) := by
  have hstarts : starts machine name asked = false := by rw [starts, h]
  have hcount : (before ++ [asked]).countP (starts machine name) =
      before.countP (starts machine name) := by
    simp [List.countP_append, hstarts]
  have hlength : (session (program machine name).call [] before).length = before.length :=
    length_session _ before []
  rw [session_append, session_append, List.nil_append, session, session_congr after hcount,
    ← hlength, List.eraseIdx_append_of_length_le (Nat.le_refl _), Nat.sub_self,
    List.eraseIdx_cons_zero]

end Earlier

/-! ## The law of sessions -/

section Law

variable (machine : Machine) (name : String) (calls : List Call)

/-- The output of a session is the lines, each with the output of its process behind it. -/
theorem output_session :
    Trace.output ((session (program machine name).call [] calls).flatMap (·.trace)) =
      (calls.mapIdx fun i asked =>
        Effect.lineBytes (commandLine name asked) ++
          processOutput machine name (calls.take i) asked).flatten := by
  have hflat : ∀ runs : List (Run Unit),
      Trace.output (runs.flatMap (·.trace)) = (runs.map (·.trace.output)).flatten := by
    intro runs
    induction runs with
    | nil => rfl
    | cons run rest ih =>
      rw [List.flatMap_cons, Trace.output_append, ih, List.map_cons, List.flatten_cons]
  rw [hflat]
  congr 1
  refine List.ext_getElem? fun i => ?_
  rw [List.getElem?_map, getElem?_session, List.getElem?_mapIdx, Option.map_map]
  congr 1
  funext asked
  exact output_program machine name _ asked

/-- What processes do changes neither the lines of a session nor its processes' arguments and
directories. -/
theorem session_with_processes (script : List Machine.Behaviour) :
    let seen (run : Run Unit) := (run.trace.effects.head?,
      run.trace.processes.map fun process => (process.arguments, process.directory))
    (session (program { machine with processes := script } name).call [] calls).map seen =
      (session (program machine name).call [] calls).map seen := by
  intro seen
  have hseen : ∀ (other : Machine) (earlier : List Call) (asked : Call),
      seen ((program other name).call earlier asked) =
        (some (.printed (commandLine name asked)), (command? other name asked).toList) := by
    intro other earlier asked
    refine Prod.ext ?_ ?_
    · show (Trace.effects _).head? = _
      rw [effects_call, effects_program]
      rfl
    · show (Trace.processes _).map _ = _
      rw [processes_call, map_processesOf]
      cases hcommand : command? other name asked with
      | none => rw [List.filterMap_cons_none hcommand]; rfl
      | some command => rw [List.filterMap_cons_some hcommand]; rfl
  refine List.ext_getElem? fun i => ?_
  rw [List.getElem?_map, List.getElem?_map, getElem?_session, getElem?_session, Option.map_map,
    Option.map_map]
  congr 1
  funext asked
  -- Whether and where a command starts is not up to the processes.
  have hcommand : command? { machine with processes := script } name asked =
      command? machine name asked := rfl
  rw [Function.comp_apply, Function.comp_apply, hseen, hseen, hcommand]

end Law

/-- **The law of commands.**  Each command of a session prints one line, the program and its
arguments between spaces, and all output of its process comes behind that; so the output is these
pieces in order.  It starts one process with the arguments of the line, and a build's in the
directory of the build, or none.  It succeeds if a process was started and exits with code zero,
whether or not that read its input; otherwise the error names the line.  A command that cannot be
started leaves the others as they would be without it, and what the processes do changes neither
lines nor arguments nor directories. -/
theorem commands_echoed_and_judged (machine : Machine) (name : String) (calls : List Call) :
    let runs := session (program machine name).call [] calls
    runs.length = calls.length ∧
    Trace.output (runs.flatMap (·.trace)) =
      (calls.mapIdx fun i asked =>
        Effect.lineBytes (" ".intercalate (name :: asked.arguments)) ++
          processOutput machine name (calls.take i) asked).flatten ∧
    (∀ i asked, calls[i]? = some asked →
      let line := " ".intercalate (name :: asked.arguments)
      let behaviour := machine.processes[(calls.take i).countP (starts machine name)]?.getD {}
      ∃ run effects, runs[i]? = some run ∧
        run.trace.effects = .printed line :: effects ∧
        (∀ text, .printed text ∉ effects) ∧
        effects.flatMap Effect.output =
          (if starts machine name asked then behaviour.output else []) ∧
        (∀ cause, start machine name asked = .error cause → run.trace.processes = []) ∧
        (∀ place, start machine name asked = .ok place →
          run.trace.processes =
            [{ arguments := asked.arguments
               directory := place
               input := if behaviour.readsInput then asked.input? else none }] ∧
          ∀ image directory, asked = .build image directory →
            machine.files.resolveDirectory directory = .ok place) ∧
        (run.result = .ok () ↔ run.trace.processes ≠ [] ∧ behaviour.ending = .exited 0) ∧
        (∀ code, behaviour.ending = .ofCode code →
          (behaviour.ending = .exited 0 ↔ code % 256 = 0)) ∧
        ∀ error, run.result = .error error → ∃ failure, error = .engineFailed line failure) ∧
    (∀ before asked after cause, calls = before ++ asked :: after →
      start machine name asked = .error cause →
        runs.eraseIdx before.length = session (program machine name).call [] (before ++ after)) ∧
    ∀ script : List Machine.Behaviour,
      let seen (run : Run Unit) := (run.trace.effects.head?,
        run.trace.processes.map fun process => (process.arguments, process.directory))
      (session (program { machine with processes := script } name).call [] calls).map seen =
        runs.map seen := by
  intro runs
  refine ⟨length_session _ _ _, ?_, fun i asked hasked => ?_, ?_,
    session_with_processes machine name calls⟩
  · simp only [← commandLine_eq_intercalate]
    exact output_session machine name calls
  · intro line behaviour
    have hline : commandLine name asked = line := commandLine_eq_intercalate name asked
    have hrun : runs[i]? = some ((program machine name).call (calls.take i) asked) := by
      rw [getElem?_session, hasked]
      rfl
    have hlaunched := processes_program machine name (calls.take i) asked
    refine ⟨_, behindLine machine name (calls.take i) asked, hrun, ?_,
      printed_not_mem_behindLine machine name _ asked, output_behindLine machine name _ asked,
      ?_, ?_, ?_, ?_, ?_⟩
    · rw [effects_call, effects_program, hline]
    · intro cause hcause
      rw [hlaunched, launch?_of_error hcause]
      rfl
    · intro place hplace
      refine ⟨by rw [hlaunched, launch?_of_ok hplace]; rfl, fun image directory hbuild => ?_⟩
      have hdirectory := workingDirectory_of_start hplace
      rwa [hbuild] at hdirectory
    · have hstarted : ((program machine name).call (calls.take i) asked).trace.processes ≠ [] ↔
          ∃ place, start machine name asked = .ok place := by
        rw [hlaunched, launch?]
        cases start machine name asked <;> simp
      rw [hstarted]
      exact result_respond_eq_ok_iff machine name (calls.take i) asked
    · intro code hcode
      rw [hcode]
      exact Ending.ofCode_eq_exited_zero_iff
    · intro error herror
      rw [← hline]
      exact exists_failure_of_respond herror
  · rintro before asked after cause rfl hcause
    exact eraseIdx_session hcause

/-- A program that is given as a path from the directory of work: it is not found from the directory
of a build, a login whose process does not read the password exits with code 256, and a push is
ended by a signal. -/
theorem commands_echoed_and_judged_of_relative_program :
    let machine : Machine :=
      { files :=
          { nodes := [([['w']], .directory), ([['w'], ['e']], .file []),
              ([['w'], ['a']], .directory)]
            distinct := by decide
            home := [['w']] }
        installed := []
        notExecutable := []
        fileFault? := fun _ => none
        processes :=
          [{ output := [104], ending := .ofCode 256, readsInput := false },
            { ending := .signalled 9 }] }
    let build := Call.build ⟨"r/t-a:latest"⟩ ⟨"a"⟩
    let login := Call.login ⟨"u", "p"⟩
    let push := Call.push ⟨"r/t-a:latest"⟩
    let runs := session (program machine "./e").call [] [build, login, push]
    start machine "./e" build = .error .noEntry ∧
      (∃ run, runs[0]? = some run ∧ run.trace.processes = []) ∧
      (∃ run effects, runs[1]? = some run ∧
        run.trace.effects = .printed "./e login -u u --password-stdin" :: effects ∧
        effects.flatMap Effect.output = [104] ∧ run.result = .ok () ∧
        run.trace.processes =
          [{ arguments := ["login", "-u", "u", "--password-stdin"]
             directory := [['w']]
             input := none }]) ∧
      (∃ run, runs[2]? = some run ∧ run.result ≠ .ok ()) ∧
      runs.eraseIdx 0 = session (program machine "./e").call [] [login, push] := by
  intro machine build login push runs
  obtain ⟨-, -, hlaw, hwithout, -⟩ :=
    commands_echoed_and_judged machine "./e" [build, login, push]
  have hlost : start machine "./e" build = .error .noEntry := rfl
  have hstart : start machine "./e" login = .ok [['w']] := rfl
  have hwithout := hwithout [] build [login, push] .noEntry rfl hlost
  obtain ⟨first, -, hfirst, -, -, -, hnone, -⟩ := hlaw 0 build rfl
  obtain ⟨second, effects, hsecond, hline, -, houtput, -, hstarted, hdone, -⟩ := hlaw 1 login rfl
  obtain ⟨third, -, hthird, -, -, -, -, -, hkilled, -⟩ := hlaw 2 push rfl
  have hprocess := (hstarted _ hstart).1
  refine ⟨hlost, ⟨first, hfirst, hnone _ hlost⟩,
    ⟨second, effects, hsecond, hline, houtput, ?_, hprocess⟩,
    ⟨third, hthird, fun hresult => ?_⟩, hwithout⟩
  · exact hdone.2 ⟨by rw [hprocess]; exact List.cons_ne_nil _ _, rfl⟩
  · cases (hkilled.1 hresult).2

end JobImages.Engine
