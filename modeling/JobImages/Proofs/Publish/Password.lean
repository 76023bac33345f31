import JobImages.Proofs.Publish.Law

/-!
# The password of a run

The password of the registry goes into one process, and nothing else of a run depends on it.  This
is a statement about two runs.  To make it one about a single equation, a password is put into
everything that may hold one: settings, calls, processes, whole runs.  Then the run with other
settings is the first run with the other password put into it.

What is seen of a run, the input of its processes apart, does not change when a password is put
into it.

## Main definitions

* `PublishSettings.withPassword`, `Run.withPassword` — settings and runs with another password.

## Main results

* `Publish.run_withPassword` — the run with another password;
* `Publish.run_blind_to_password` — what two runs that differ in their passwords have in common.
-/

namespace JobImages

/-! ## Putting a password into something -/

/-- The credentials with another password. -/
def Credentials.withPassword (password : String) (credentials : Credentials) : Credentials :=
  { credentials with password }

/-- The settings with another password. -/
def PublishSettings.withPassword (password : String) (settings : PublishSettings) :
    PublishSettings :=
  { settings with credentials := settings.credentials.withPassword password }

/-- A call with another password, if it has one. -/
def Engine.Call.withPassword (password : String) : Engine.Call → Engine.Call
  | .login credentials => .login (credentials.withPassword password)
  | .build image directory => .build image directory
  | .push image => .push image

/-- A process that has another password on its input, if it has one there. -/
def Engine.Launch.withPassword (password : String) (process : Engine.Launch) : Engine.Launch :=
  { process with input := process.input.map fun _ => password }

/-- A step with another password. -/
def Step.withPassword (password : String) : Step → Step
  | .call asked => .call (asked.withPassword password)
  | other => other

/-- An effect with another password. -/
def Effect.withPassword (password : String) : Effect → Effect
  | .started process => .started (process.withPassword password)
  | other => other

/-- An event with another password. -/
def Event.withPassword (password : String) : Event → Event
  | .step taken => .step (taken.withPassword password)
  | .effect seen => .effect (seen.withPassword password)

/-- An answer with another password. -/
def Answer.withPassword (password : String) (answer : Answer) : Answer :=
  { answer with effects := answer.effects.map (·.withPassword password) }

/-- A run with another password. -/
def Run.withPassword {α : Type} (password : String) (run : Run α) : Run α :=
  { run with trace := run.trace.map (·.withPassword password) }

/-- An effect without what a process read from its input. -/
def Effect.withoutInput : Effect → Effect
  | .started process => .started { process with input := none }
  | other => other

/-- Whether a process is that of a login. -/
def Engine.Launch.isLogin (process : Engine.Launch) : Bool :=
  process.arguments.head? == some "login"

/-- What the k-th process of a run reads: the password, if it is a login's and reads at all. -/
def Machine.inputAt (machine : Machine) (password : String) (k : Nat) (process : Engine.Launch) :
    Option String :=
  if process.isLogin && (machine.processes[k]?.getD {}).readsInput then some password else none

/-! ## Settings -/

section Settings

variable (password : String) (settings : PublishSettings)

/-- Whether settings are accepted does not depend on the password. -/
theorem PublishSettings.check_withPassword :
    (settings.withPassword password).check = settings.check := rfl

/-- A diagnostic does not depend on the password. -/
theorem PublishSettings.describe_withPassword :
    (settings.withPassword password).describe = settings.describe := rfl

end Settings

/-! ## Engines that are programs -/

namespace Engine

section

variable (password : String) (machine : Machine) (name : String) (asked : Call)

@[simp] theorem Call.arguments_withPassword :
    (asked.withPassword password).arguments = asked.arguments := by
  cases asked <;> rfl

@[simp] theorem Call.directory?_withPassword :
    (asked.withPassword password).directory? = asked.directory? := by
  cases asked <;> rfl

@[simp] theorem Call.input?_withPassword :
    (asked.withPassword password).input? = asked.input?.map fun _ => password := by
  cases asked <;> rfl

/-- The command that is echoed does not depend on the password. -/
@[simp] theorem commandLine_withPassword :
    commandLine name (asked.withPassword password) = commandLine name asked := by
  rw [commandLine, Call.arguments_withPassword, commandLine]

/-- Whether and where a process starts does not depend on the password. -/
@[simp] theorem start_withPassword :
    start machine name (asked.withPassword password) = start machine name asked := by
  simp only [start, workingDirectory, Call.arguments_withPassword, Call.directory?_withPassword]

@[simp] theorem starts_withPassword :
    starts machine name (asked.withPassword password) = starts machine name asked := by
  rw [starts, start_withPassword, starts]

/-- What the next process does depends on the number of those before it only. -/
@[simp] theorem nextBehaviour_withPassword (earlier : List Call) :
    nextBehaviour machine name (earlier.map (·.withPassword password)) =
      nextBehaviour machine name earlier := by
  rw [nextBehaviour, List.countP_map, nextBehaviour]
  congr 3
  funext asked
  exact starts_withPassword password machine name asked

@[simp] theorem spawning_withPassword :
    spawning name (asked.withPassword password) = spawning name asked := by
  simp only [spawning, commandLine_withPassword, Call.directory?_withPassword]

@[simp] theorem succeeded_withPassword :
    succeeded name (asked.withPassword password) = succeeded name asked := by
  rw [succeeded, commandLine_withPassword, succeeded]

/-- A process does with another password what it did before. -/
theorem runProcess_withPassword (place : FileTree.Location) (behaviour : Machine.Behaviour) :
    runProcess name place behaviour (asked.withPassword password) =
      (runProcess name place behaviour asked).withPassword password := by
  have hinput : (if behaviour.readsInput then (asked.withPassword password).input? else none) =
      (if behaviour.readsInput then asked.input? else none).map fun _ => password := by
    cases behaviour.readsInput <;> simp
  simp only [runProcess, hinput, Call.arguments_withPassword, commandLine_withPassword,
    succeeded_withPassword]
  split
  · rfl
  · rfl

/-- A program answers with another password as it did before. -/
theorem respond_withPassword (earlier : List Call) :
    (program machine name).respond (earlier.map (·.withPassword password))
        (asked.withPassword password) =
      ((program machine name).respond earlier asked).withPassword password := by
  simp only [program, start_withPassword, nextBehaviour_withPassword, runProcess_withPassword,
    commandLine_withPassword, spawning_withPassword]
  cases start machine name asked with
  | ok place => rfl
  | error cause => rfl

end

end Engine

/-! ## What is seen of a run -/

section Views

variable (password : String)

theorem Effect.output_withPassword (effect : Effect) :
    (effect.withPassword password).output = effect.output := by
  cases effect <;> rfl

theorem Effect.errorOutput_withPassword (admits : Log.Record → Bool) (effect : Effect) :
    (effect.withPassword password).errorOutput admits = effect.errorOutput admits := by
  cases effect <;> rfl

theorem Effect.process?_withPassword (effect : Effect) :
    (effect.withPassword password).process? =
      effect.process?.map (·.withPassword password) := by
  cases effect <;> rfl

theorem Effect.withoutInput_withPassword (effect : Effect) :
    (effect.withPassword password).withoutInput = effect.withoutInput := by
  cases effect <;> rfl

namespace Trace

theorem effects_withPassword (trace : Trace) :
    effects (trace.map (·.withPassword password)) =
      trace.effects.map (·.withPassword password) := by
  rw [effects, List.filterMap_map, effects, List.map_filterMap]
  congr 1
  funext event
  cases event <;> rfl

theorem output_withPassword (trace : Trace) :
    output (trace.map (·.withPassword password)) = trace.output := by
  rw [output, effects_withPassword, List.flatMap_map, output]
  simp only [Effect.output_withPassword]

theorem errorOutput_withPassword (admits : Log.Record → Bool) (trace : Trace) :
    errorOutput admits (trace.map (·.withPassword password)) = trace.errorOutput admits := by
  rw [errorOutput, effects_withPassword, List.flatMap_map, errorOutput]
  simp only [Effect.errorOutput_withPassword]

theorem processes_withPassword (trace : Trace) :
    processes (trace.map (·.withPassword password)) =
      trace.processes.map (·.withPassword password) := by
  rw [processes, effects_withPassword, List.filterMap_map, processes, List.map_filterMap]
  congr 1
  funext effect
  exact Effect.process?_withPassword password effect

end Trace

end Views

/-! ## Runs -/

namespace Run

variable {α β : Type} {password : String}

/-- A run after another has another password if both have. -/
theorem bind_withPassword {first first' : Run α} {next next' : α → Run β}
    (hfirst : first' = first.withPassword password)
    (hnext : ∀ value, next' value = (next value).withPassword password) :
    (first' >>= next') = (first >>= next).withPassword password := by
  subst hfirst
  cases h : first.result with
  | ok value =>
    have h' : (first.withPassword password).result = .ok value := h
    rw [bind_of_ok next h, bind_of_ok next' h', hnext]
    exact Run.ext List.map_append.symm rfl
  | error error =>
    have h' : (first.withPassword password).result = .error error := h
    rw [bind_of_error next h, bind_of_error next' h']
    rfl

/-- There is no password in remarks. -/
theorem emit_logged_withPassword (records : List Log.Record) :
    (emit (records.map .logged)).withPassword password = emit (records.map .logged) := by
  refine Run.ext ?_ rfl
  simp only [withPassword, emit, List.map_map]
  rfl

theorem turnTo_withPassword (step : Step) (answer : Answer) :
    turnTo (step.withPassword password) (answer.withPassword password) =
      (turnTo step answer).withPassword password := by
  refine Run.ext ?_ rfl
  simp [withPassword, turnTo, Answer.withPassword, Event.withPassword]

end Run

namespace Publish

open Engine

section

variable (password : String) (settings : PublishSettings) (machine : Machine) (name : String)

/-- A call with another password. -/
theorem call_withPassword (earlier : List Engine.Call) (asked : Engine.Call) :
    (program machine name).call (earlier.map (·.withPassword password))
        (asked.withPassword password) =
      ((program machine name).call earlier asked).withPassword password := by
  rw [Engine.call, respond_withPassword]
  exact Run.turnTo_withPassword (.call asked) _

/-- The login with another password, and a run after it. -/
theorem ensureLogin_withPassword {α : Type} (loggedIn : Bool) (earlier : List Engine.Call)
    {next next' : List Engine.Call → Run α}
    (hnext : ∀ calls : List Engine.Call,
      next' (calls.map (·.withPassword password)) = (next calls).withPassword password) :
    (ensureLogin (settings.withPassword password) (program machine name) loggedIn
        (earlier.map (·.withPassword password)) >>= next') =
      (ensureLogin settings (program machine name) loggedIn earlier >>= next).withPassword
        password := by
  cases loggedIn with
  | true => exact hnext earlier
  | false =>
    rw [ensureLogin_false_bind, ensureLogin_false_bind]
    refine Run.bind_withPassword
      (call_withPassword password machine name earlier (.login settings.credentials)) fun _ => ?_
    rw [← hnext, List.map_append]
    rfl

/-- The run over some directories with another password. -/
theorem entries_withPassword (listing : List Catalog.Entry) :
    ∀ (loggedIn : Bool) (earlier : List Engine.Call),
      entries (settings.withPassword password) (program machine name) loggedIn
          (earlier.map (·.withPassword password)) listing =
        (entries settings (program machine name) loggedIn earlier listing).withPassword
          password := by
  induction listing with
  | nil =>
    intro loggedIn earlier
    rfl
  | cons entry rest ih =>
    intro loggedIn earlier
    rw [entries, entries]
    refine Run.bind_withPassword rfl fun _ => ?_
    refine Run.bind_withPassword rfl fun reading => ?_
    cases reading with
    | none =>
      refine Run.bind_withPassword rfl fun _ => ?_
      exact Run.bind_withPassword (ih loggedIn earlier) fun _ => rfl
    | some metadata =>
      refine ensureLogin_withPassword password settings machine name loggedIn earlier
        fun calls => ?_
      let image := settings.jobs.image metadata.name
      let build := Engine.Call.build image entry.directory.path
      let push := Engine.Call.push image
      -- Neither call holds a password, so that the history is that of before with another one.
      have hbuilt : (calls ++ [build]).map (·.withPassword password) =
          calls.map (·.withPassword password) ++ [build] := List.map_append
      have hpushed : (calls ++ [build, push]).map (·.withPassword password) =
          calls.map (·.withPassword password) ++ [build, push] := List.map_append
      refine Run.bind_withPassword rfl fun _ => ?_
      refine Run.bind_withPassword (call_withPassword password machine name calls build)
        fun _ => ?_
      refine Run.bind_withPassword ?_ fun _ => ?_
      · rw [← call_withPassword password machine name (calls ++ [build]) push, hbuilt]
        rfl
      refine Run.bind_withPassword rfl fun _ => ?_
      refine Run.bind_withPassword ?_ fun _ => rfl
      rw [← ih, hpushed]
      rfl

/-- The run over a catalog with another password. -/
theorem execute_withPassword (catalog : Catalog) :
    execute (settings.withPassword password) catalog (program machine name) =
      (execute settings catalog (program machine name)).withPassword password := by
  refine Run.bind_withPassword rfl fun _ => ?_
  refine Run.bind_withPassword (Run.emit_logged_withPassword _).symm fun _ => ?_
  refine Run.bind_withPassword rfl fun listing => ?_
  exact entries_withPassword password settings machine name listing false []

/-- A run with other settings is the same run with another password. -/
theorem run_withPassword :
    run (settings.withPassword password) machine =
      (run settings machine).withPassword password := by
  refine Run.bind_withPassword ?_ fun _ => ?_
  · rw [PublishSettings.check_withPassword]
    rfl
  · exact execute_withPassword password settings machine settings.engine _

end

/-! ## The input of the processes -/

/-- A process of a run reads the password if it is that of a login and reads at all. -/
theorem input_of_execute {settings : PublishSettings} {catalog : Catalog} {machine : Machine}
    {name : String} {k : Nat} {process : Launch}
    (h : (execute settings catalog (program machine name)).trace.processes[k]? = some process) :
    process.input = machine.inputAt settings.credentials.password k process := by
  rw [processes_execute] at h
  obtain ⟨before, asked, after, hcalls, hcount, hlaunch⟩ := getElem?_processesOf h
  -- As many processes were started before as the list has entries in front of the k-th.
  have hbehaviour : nextBehaviour machine name before = machine.processes[k]?.getD {} := by
    rw [nextBehaviour, hcount]
  rw [List.nil_append] at hlaunch
  cases hstart : start machine name asked with
  | error cause =>
    rw [launch?_of_error hstart] at hlaunch
    cases hlaunch
  | ok place =>
    rw [launch?_of_ok hstart, hbehaviour] at hlaunch
    cases hlaunch
    cases asked with
    | login credentials =>
      -- The plan has one login only, and that is made with the credentials of the settings.
      have hmem : .login credentials ∈
          (execute settings catalog (program machine name)).trace.calls := by
        rw [hcalls]
        exact List.mem_append_right before List.mem_cons_self
      have hcredentials := credentials_of_login_mem (calls_planned settings catalog _) hmem
      simp [Machine.inputAt, Launch.isLogin, Call.arguments, Call.input?, hcredentials]
    | build image directory =>
      simp [Machine.inputAt, Launch.isLogin, Call.arguments, Call.input?]
    | push image =>
      simp [Machine.inputAt, Launch.isLogin, Call.arguments, Call.input?]

/-- A process of a run reads the password if it is that of a login and reads at all. -/
theorem input_of_run {settings : PublishSettings} {machine : Machine} {k : Nat} {process : Launch}
    (h : (run settings machine).trace.processes[k]? = some process) :
    process.input = machine.inputAt settings.credentials.password k process := by
  rw [run] at h
  cases hcheck : settings.check with
  | ok value =>
    rw [hcheck] at h
    exact input_of_execute h
  | error problem =>
    rw [hcheck] at h
    cases h

/-- **Nothing but the login depends on the password.**  Two runs whose settings differ in their
passwords are checked and described alike, end alike, and are seen to do the same things in the
same order.  They differ at most in what the processes of a login read, which is the password. -/
theorem run_blind_to_password (settings : PublishSettings) (machine : Machine)
    (password : String) :
    let other := settings.withPassword password
    let first := (run settings machine).trace
    let second := (run other machine).trace
    other.check = settings.check ∧
      other.describe = settings.describe ∧
      (run other machine).result = (run settings machine).result ∧
      second.output = first.output ∧
      (∀ admits, second.errorOutput admits = first.errorOutput admits) ∧
      second.processes.map (fun process => (process.arguments, process.directory)) =
        first.processes.map (fun process => (process.arguments, process.directory)) ∧
      second.effects.map Effect.withoutInput = first.effects.map Effect.withoutInput ∧
      (∀ (k : Nat) process, first.processes[k]? = some process →
        process.input = machine.inputAt settings.credentials.password k process) ∧
      (∀ (k : Nat) process, second.processes[k]? = some process →
        process.input = machine.inputAt password k process) := by
  intro other first second
  have hrun : run other machine = (run settings machine).withPassword password :=
    run_withPassword password settings machine
  -- Every view of the second trace is the view of the first one with the password put in.
  have hsecond : second = first.map (·.withPassword password) := congrArg Run.trace hrun
  refine ⟨settings.check_withPassword password, settings.describe_withPassword password,
    ?_, ?_, ?_, ?_, ?_, ?_, ?_⟩
  · rw [hrun]
    rfl
  · rw [hsecond, Trace.output_withPassword]
  · intro admits
    rw [hsecond, Trace.errorOutput_withPassword]
  · rw [hsecond, Trace.processes_withPassword, List.map_map]
    rfl
  · rw [hsecond, Trace.effects_withPassword, List.map_map]
    exact List.map_congr_left fun effect _ => Effect.withoutInput_withPassword password effect
  · intro k process hprocess
    exact input_of_run hprocess
  · intro k process hprocess
    exact input_of_run hprocess

end Publish

end JobImages
