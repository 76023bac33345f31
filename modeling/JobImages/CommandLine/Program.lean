import JobImages.CommandLine.Help
import JobImages.Log.Filter
import JobImages.Notify
import JobImages.Publish

/-!
# The commands as programs

A command reads its settings, carries out its run, and says how that ended: on standard output if it
went well, on standard error if not.  The exit code tells the same: zero for a run that went well,
one for a run that did not, two for a command line that gives no settings.

## Main definitions

* `Program.Exit` — what a program did, and its exit code;
* `Program.publish`, `Program.notify` — the programs.
-/

namespace JobImages.Program

open CommandLine (Command Complaint Environment)

/-- The end of a program. -/
structure Exit where
  /-- What happened, in order. -/
  trace : Trace
  /-- The exit code. -/
  code : Nat

/-- The variable that says which remarks are shown. -/
def filterVariable : String := "RUST_LOG"

/-- The remarks that are shown in an environment. -/
def shown (environment : Environment) : Log.Record → Bool :=
  (Log.Filter.read (environment.lookup filterVariable)).admits

/-- The answer to a command line that gives no settings. -/
def complain (command : Command) (environment : Environment) (complaint : Complaint) : Exit :=
  let effect : Effect :=
    match complaint with
    | .help => .printed (command.help environment)
    | .version => .printed command.versionLine
    | complaint => .reported (complaint.message command)
  { trace := [.effect effect], code := complaint.exitCode }

/-- The end of a run that has some last words. -/
def finish {α : Type} (run : Run α) (farewell : Except Error α → List Effect) : Exit :=
  { trace := run.trace ++ (farewell run.result).map .effect
    code :=
      match run.result with
      | .ok _ => 0
      | .error _ => 1 }

/-- The line for an error. -/
def errorLine (error : Error) : String :=
  "Error: " ++ error.message

/-- The summary of what was published. -/
def summary (outcome : Publish.Outcome) : List String :=
  s!"✅ Published {outcome.published.length} image(s)" ::
    outcome.published.map (fun image => "  " ++ image.reference) ++
    (if outcome.skipped.isEmpty then []
      else [s!"ℹ️ Skipped {outcome.skipped.length} directory(ies) without metadata"])

/-- The last words of publishing. -/
def publishFarewell : Except Error Publish.Outcome → List Effect
  | .ok outcome => (summary outcome).map .printed
  | .error error => [.reported (errorLine error)]

/-- The last words of notifying. -/
def notifyFarewell : Except Error Nat → List Effect
  | .ok _ => [.printed "Updated proctor metadata"]
  | .error (.rejected status body) =>
    [.printed "Something went wrong while updating proctor metadata! Response from proctor:",
      .printed s!"{status} {body}"]
  | .error error => [.reported (errorLine error)]

/-- The program that publishes. -/
def publish [Url.International] (arguments : List String) (environment : Environment)
    (machine : Machine) : Exit :=
  match CommandLine.readPublish arguments environment with
  | .ok settings => finish (Publish.run settings machine) publishFarewell
  | .error complaint => complain CommandLine.publishCommand environment complaint

/-- The program that notifies. -/
def notify [Url.International] (arguments : List String) (environment : Environment)
    (files : FileTree) (network : Network) (library : Http.Library := .plain) : Exit :=
  match CommandLine.readNotify arguments environment with
  | .ok settings => finish (Notify.run settings files network library) notifyFarewell
  | .error complaint => complain CommandLine.notifyCommand environment complaint

end JobImages.Program
