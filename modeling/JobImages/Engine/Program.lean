import JobImages.Engine.Basic
import JobImages.FileTree.Resolve

/-!
# Engines that are programs

The usual engine is a program such as `docker`, which is run once for each call.  The command is
echoed before it runs; it succeeds when its process exits with code zero.  A password goes to the
process's input and nowhere else.

What running a program does is up to the machine it runs on: a tree of files to run in, programs
that can be started, and what the processes do, in the order in which they are started.  A program
is named, or given as a path; a relative path is followed from the directory in which the process
is to run, which is why the directory comes first.

## Main definitions

* `Machine` — what a program finds, and what its processes do;
* `Engine.Call.arguments`, `Engine.commandLine` — the command for a call;
* `Engine.programFault?` — why a program is not started;
* `Engine.start` — where a command runs, or why it cannot be started;
* `Engine.program` — the engine that runs a program on a machine.
-/

namespace JobImages

/-- What a process does. -/
structure Machine.Behaviour where
  /-- What it writes to standard output. -/
  output : List UInt8 := []
  /-- What it writes to standard error. -/
  errorOutput : List UInt8 := []
  /-- How it ends. -/
  ending : Engine.Ending := .exited 0
  /-- Whether it reads its input. -/
  readsInput : Bool := true

/-- A machine that programs run on. -/
structure Machine where
  /-- The files, with the directory in which programs are at work. -/
  files : FileTree
  /-- The programs that can be started by name. -/
  installed : List String
  /-- The programs that are found and may not be started. -/
  notExecutable : List String
  /-- Why the file at a place is not started as a program, if it cannot be. -/
  fileFault? : FileTree.Location → Option SystemError := fun _ => some .notPermitted
  /-- What the processes do, in the order in which they are started. -/
  processes : List Machine.Behaviour

namespace Engine

/-- An exit code as the system keeps it, in eight bits. -/
def Ending.ofCode (code : Int) : Ending :=
  .exited (code % 256).toNat

/-- The arguments for a call.  A login is told where to find the password. -/
def Call.arguments : Call → List String
  | .login credentials => ["login", "-u", credentials.username, "--password-stdin"]
  | .build image _ => ["build", "-t", image.reference, "."]
  | .push image => ["push", image.reference]

/-- The directory that a call names, in which its process runs. -/
def Call.directory? : Call → Option Path
  | .build _ directory => some directory
  | _ => none

/-- What a call writes to its process's input. -/
def Call.input? : Call → Option String
  | .login credentials => some credentials.password
  | _ => none

/-- The command for a call, as it is echoed. -/
def commandLine (program : String) (call : Call) : String :=
  program ++ " " ++ " ".intercalate call.arguments

/-- Why a program that is named is not found, or may not be started. -/
def namedFault? (machine : Machine) (program : String) : Option SystemError :=
  if program.isEmpty then some .noEntry
  else if FileTree.nameLimit < program.utf8ByteSize then some .nameTooLong
  else if machine.installed.contains program then
    if machine.notExecutable.contains program then some .notPermitted else none
  else if machine.notExecutable.contains program then some .notPermitted
  else some .noEntry

/-- Why a program that is given as a path is not found from a directory, or may not be started. -/
def pathFault? (machine : Machine) (place : FileTree.Location) (path : Path) :
    Option SystemError :=
  match machine.files.resolveFrom place path with
  | .ok (.file location _) => machine.fileFault? location
  | .ok (.directory _) => some .notPermitted
  | .ok (.vacant _) => some .noEntry
  | .error cause => some cause

/-- Why a program is not started in a directory.  A text with a separator is a path, any other is
the name of a program. -/
def programFault? (machine : Machine) (place : FileTree.Location) (program : String) :
    Option SystemError :=
  if program.toList.contains '/' then pathFault? machine place ⟨program⟩
  else namedFault? machine program

/-- Where the process of a call runs, or why it cannot. -/
def workingDirectory (machine : Machine) (call : Call) : Except SystemError FileTree.Location :=
  match call.directory? with
  | some directory => machine.files.resolveDirectory directory
  | none => .ok machine.files.home

/-- The least number of bytes that is too many for an argument. -/
def argumentLimit : Nat := 131072

/-- Whether an argument is longer than arguments can be. -/
def isTooLongArgument (argument : String) : Bool :=
  argumentLimit ≤ argument.utf8ByteSize

/-- Whether a text contains the character that ends arguments. -/
def hasNul (text : String) : Bool :=
  text.toList.contains '\x00'

/-- Where the process of a call starts, or why it does not: first no argument may contain the
character that ends arguments, then there must be the directory, then the program, and then the
system looks at the arguments. -/
def start (machine : Machine) (program : String) (call : Call) :
    Except SystemError FileTree.Location :=
  -- The text for the process is put together before anything is asked of the system.
  if hasNul program || call.arguments.any hasNul || call.directory?.any (hasNul ·.text) then
    .error .nulInArgument
  else
    match workingDirectory machine call with
    | .error cause => .error cause
    | .ok place =>
      match programFault? machine place program with
      | some cause => .error cause
      | none =>
        if call.arguments.any isTooLongArgument then .error .argumentsTooLong else .ok place

/-- Whether the process of a call starts. -/
def starts (machine : Machine) (program : String) (call : Call) : Bool :=
  match start machine program call with
  | .ok _ => true
  | .error _ => false

/-- What the next process does after those of some calls. -/
def nextBehaviour (machine : Machine) (program : String) (earlier : List Call) :
    Machine.Behaviour :=
  machine.processes[earlier.countP (starts machine program)]?.getD {}

/-- The remark before a command. -/
def spawning (program : String) (call : Call) : Log.Record :=
  let directory :=
    match call.directory? with
    | some path => s!"Some({Text.quoted path.text})"
    | none => "None"
  { source := .engine
    level := .debug
    message := "spawning container engine"
    fields := [("command", commandLine program call), ("cwd", directory)] }

/-- The remark after a command. -/
def succeeded (program : String) (call : Call) : Log.Record :=
  { source := .engine
    level := .debug
    message := "container engine command succeeded"
    fields := [("command", commandLine program call)] }

/-- The answer to a call that starts a process. -/
def runProcess (program : String) (place : FileTree.Location) (behaviour : Machine.Behaviour)
    (call : Call) : Answer :=
  let process : Launch :=
    { arguments := call.arguments
      directory := place
      input := if behaviour.readsInput then call.input? else none }
  let effects : List Effect :=
    [.started process, .wroteOutput behaviour.output, .wroteError behaviour.errorOutput]
  if behaviour.ending.isSuccess then
    { effects := effects ++ [.logged (succeeded program call)], result := .ok () }
  else
    { effects
      result := .error (.engineFailed (commandLine program call) (.ended behaviour.ending)) }

/-- The engine that runs a program for each call. -/
def program (machine : Machine) (name : String) : Engine where
  respond earlier next :=
    let echo : List Effect := [.printed (commandLine name next), .logged (spawning name next)]
    match start machine name next with
    | .ok place =>
      let answer := runProcess name place (nextBehaviour machine name earlier) next
      { answer with effects := echo ++ answer.effects }
    | .error cause =>
      { effects := echo
        result := .error (.engineFailed (commandLine name next) (.notStarted cause)) }

end Engine

end JobImages
