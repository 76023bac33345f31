import JobImages.CommandLine.Program
import JobImages.Json.Reader
import JobImages.Scenario

/-!
# The command line

The first argument says which program to rehearse, the others are its command line.  The environment
is the real one; the rest of the surroundings is the scenario on standard input.  Nothing is started
and nothing is sent: what the program would write is written, and it exits as the program would.
-/

namespace JobImages.Main

/-- The variables that the programs look at. -/
def variableNames : List String :=
  Program.filterVariable ::
    (CommandLine.publishCommand.flags ++ CommandLine.notifyCommand.flags).map (·.variableName)

/-- The real environment, as far as the programs look at it. -/
def environment : IO CommandLine.Environment := do
  let pairs ← variableNames.mapM fun name => do
    let value ← IO.getEnv name
    pure (value.map fun text => (name, text))
  pure (pairs.filterMap id)

/-- All of standard input. -/
partial def readInput (stream : IO.FS.Stream) (text : String) : IO String := do
  let line ← stream.getLine
  if line.isEmpty then pure text else readInput stream (text ++ line)

/-- The scenario that a text describes; an empty text describes the ordinary one. -/
def scenario (text : String) : Except Json.Fault Scenario :=
  if Text.isBlank text then .ok (Scenario.ofJson .null)
  else (Json.read text).map Scenario.ofJson

/-- The end of a program that is called by name. -/
def rehearse (program : String) (arguments : List String) (environment : CommandLine.Environment)
    (scenario : Scenario) : Option Program.Exit :=
  match program with
  | "publish" => some (Program.publish arguments environment scenario.machine)
  | "notify" => some (Program.notify arguments environment scenario.machine.files scenario.network)
  | _ => none

/-- Says that the command line or the scenario is of no use. -/
def refuse (reason : String) : IO UInt32 := do
  (← IO.getStderr).putStrLn reason
  pure 2

end JobImages.Main

/-- Rehearses a program. -/
def main (arguments : List String) : IO UInt32 := do
  match arguments with
  | [] => JobImages.Main.refuse "expected publish or notify"
  | program :: rest =>
    let text ← JobImages.Main.readInput (← IO.getStdin) ""
    match JobImages.Main.scenario text with
    | .error fault => JobImages.Main.refuse fault.message
    | .ok scenario =>
      let environment ← JobImages.Main.environment
      match JobImages.Main.rehearse program rest environment scenario with
      | none => JobImages.Main.refuse "expected publish or notify"
      | some exit =>
        let errors := exit.trace.errorOutput (JobImages.Program.shown environment)
        (← IO.getStdout).write ⟨exit.trace.output.toArray⟩
        (← IO.getStderr).write ⟨errors.toArray⟩
        pure exit.code.toUInt32
