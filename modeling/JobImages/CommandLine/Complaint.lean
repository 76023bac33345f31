import JobImages.CommandLine.Flag
import JobImages.Text.Terminal

/-!
# Complaints

Why a command line gives no settings: it asks for help or for the version, or something is wrong
with it.

## Main definitions

* `CommandLine.Complaint` — the reasons;
* `CommandLine.Complaint.message` — the first line of what is said;
* `CommandLine.Complaint.exitCode` — the code with which the command exits.
-/

namespace JobImages.CommandLine

/-- Why there are no settings. -/
inductive Complaint where
  /-- Help was asked for. -/
  | help
  /-- The version was asked for. -/
  | version
  /-- There is no such flag, or no place for such an argument. -/
  | unknown (argument : String)
  /-- A flag has no value, or an empty one that it cannot have. -/
  | valueMissing (flag : Flag)
  /-- A flag has a value that it cannot have. -/
  | valueBad (flag : Flag) (text : String) (fault : ValueFault)
  /-- A flag is given twice. -/
  | repeated (flag : Flag)
  /-- A flag that takes no value is given one. -/
  | valueUnexpected (argument : String) (text : String)
  /-- Flags that have to be given are not. -/
  | missing (flags : List Flag)
  deriving DecidableEq

namespace Complaint

/-- The complaint about a flag's value. -/
def ofFault (flag : Flag) (text : String) (fault : ValueFault) : Complaint :=
  match fault with
  | .missing => .valueMissing flag
  | fault => .valueBad flag text fault

/-- The arguments that a complaint is about. -/
def arguments : Complaint → List String
  | .help | .version => []
  | .unknown argument => [argument]
  | .valueMissing flag => [flag.usage]
  | .valueBad flag _ _ => [flag.usage]
  | .repeated flag => [flag.usage]
  | .valueUnexpected argument _ => [argument]
  | .missing flags => flags.map Flag.usage

/-- The values that a complaint is about. -/
def values : Complaint → List String
  | .valueMissing _ => [""]
  | .valueBad _ text _ => [text]
  | .valueUnexpected _ text => [text]
  | _ => []

/-- Only asking is no failure. -/
def exitCode : Complaint → Nat
  | .help | .version => 0
  | _ => 2

/-- A text up to its first line end, which is a line feed or a carriage return and a line feed. -/
def firstLine (text : String) : String :=
  let line := text.toList.takeWhile (· != '\n')
  let ended := text.toList.contains '\n'
  String.ofList (if ended && line.getLast? == some '\r' then line.dropLast else line)

/-- What is said about a command line, for a terminal: what the user wrote is set in bold. -/
def text (command : Command) : Complaint → String
  | .help => command.about
  | .version => command.versionLine
  | .unknown argument => s!"error: unexpected argument '{Text.strong argument}' found"
  | .valueMissing flag => s!"error: a value is required for '{flag.usage}' but none was supplied"
  | .valueBad flag value fault =>
    s!"error: invalid value '{Text.strong value}' for '{flag.usage}': {fault.message}"
  | .repeated flag => s!"error: the argument '{flag.usage}' cannot be used multiple times"
  | .valueUnexpected argument value =>
    s!"error: unexpected value '{Text.strong value}' for '{argument}' found; no more were expected"
  | .missing _ => "error: the following required arguments were not provided:"

/-- The first line of what is said. -/
def message (command : Command) (complaint : Complaint) : String :=
  firstLine (Text.plain (complaint.text command))

end Complaint

end JobImages.CommandLine
