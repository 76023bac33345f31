import JobImages.CommandLine.Complaint
import JobImages.Settings

/-!
# Reading a command line

The arguments are taken from left to right.  The value of a flag is part of the same argument or the
argument that follows it, and is looked at only when the next flag comes or the arguments end; an
argument that cannot be placed is complained about at once.  What the arguments leave open is taken
from the environment, and then from the flags themselves.

## Main definitions

* `CommandLine.Environment`, `CommandLine.Assignment` — variables, and values of flags;
* `CommandLine.takeArgument`, `CommandLine.readArguments` — the arguments;
* `CommandLine.complete` — the values that the arguments left open;
* `CommandLine.read` — the values of all flags;
* `CommandLine.readPublish`, `CommandLine.readNotify` — the settings of the commands.
-/

namespace JobImages.CommandLine

/-- The variables of the environment. -/
abbrev Environment := List (String × String)

/-- Values of flags, by the names of the flags. -/
abbrev Assignment := List (String × Value)

/-- A value with its flag, unless the flag has one already or cannot have that one. -/
def assign [Url.International] (given : Assignment) (flag : Flag) (text : String) :
    Except Complaint Assignment :=
  match given.lookup flag.name with
  | some _ => .error (.repeated flag)
  | none =>
    match flag.kind.read text with
    | .ok value => .ok (given ++ [(flag.name, value)])
    | .error fault => .error (.ofFault flag text fault)

/-! ## Arguments -/

/-- What has been read of the arguments. -/
structure Progress where
  /-- The values that were looked at. -/
  given : Assignment
  /-- The last flag, with its value if it came already. -/
  pending : Option (Flag × Option String)
  /-- Whether flags have been declared to be over. -/
  trailing : Bool

/-- Nothing has been read. -/
def Progress.start : Progress :=
  { given := [], pending := none, trailing := false }

/-- The values after the last flag has been looked at. -/
def Progress.settled [Url.International] (progress : Progress) : Except Complaint Assignment :=
  match progress.pending with
  | none => .ok progress.given
  | some (flag, none) => .error (.valueMissing flag)
  | some (flag, some text) => assign progress.given flag text

/-- An argument at its first equals sign: the name, and the value if there is one. -/
def cutValue (text : List Char) : String × Option String :=
  let name := text.takeWhile (· != '=')
  match text.drop name.length with
  | _ :: value => (String.ofList name, some (String.ofList value))
  | [] => (String.ofList name, none)

/-- A question for help or for the version ends the reading, once the last flag has been looked at.
It takes no value. -/
def ask [Url.International] (progress : Progress) (argument : String) (value : Option String)
    (complaint : Complaint) : Except Complaint Progress :=
  match value with
  | some text => .error (.valueUnexpected argument text)
  | none => do
    let _ ← progress.settled
    .error complaint

/-- An argument that begins with two dashes, given without them. -/
def takeLong [Url.International] (command : Command) (progress : Progress) (text : List Char) :
    Except Complaint Progress :=
  let (name, value) := cutValue text
  match command.flag? name with
  | some flag => do
    let given ← progress.settled
    match value with
    -- A value in the same argument is looked at at once, one in the next argument later.
    | some text => do
      let given ← assign given flag text
      .ok { progress with given, pending := none }
    | none => .ok { progress with given, pending := some (flag, none) }
  | none =>
    if name = "help" then ask progress "--help" value .help
    else if name = "version" then ask progress "--version" value .version
    else .error (.unknown ("--" ++ name))

/-- One more argument. -/
def takeArgument [Url.International] (command : Command) (progress : Progress) (argument : String) :
    Except Complaint Progress :=
  if progress.trailing then .error (.unknown argument)
  else
    match argument.toList with
    | ['-', '-'] => .ok { progress with trailing := true }
    | '-' :: '-' :: text => takeLong command progress text
    -- No letter takes a value, so the first letter decides; a dash alone is an ordinary argument.
    | '-' :: letter :: _ =>
      if letter = 'h' then ask progress "-h" none .help
      else if letter = 'V' then ask progress "-V" none .version
      else .error (.unknown (String.ofList ['-', letter]))
    | _ =>
      match progress.pending with
      | some (flag, none) => .ok { progress with pending := some (flag, some argument) }
      | _ => .error (.unknown argument)

/-- The values that the arguments give. -/
def readArguments [Url.International] (command : Command) (arguments : List String) :
    Except Complaint Assignment := do
  let progress ← arguments.foldlM (takeArgument command) Progress.start
  progress.settled

/-! ## What the arguments leave open -/

/-- The text for a flag that is not given: that of its variable. -/
def variableText (environment : Environment) (flag : Flag) : Option String :=
  environment.lookup flag.variableName

/-- The values after some flags have been looked up, each where it is still open. -/
def complete [Url.International] (text? : Flag → Option String) (given : Assignment) :
    List Flag → Except Complaint Assignment
  | [] => .ok given
  | flag :: rest =>
    match given.lookup flag.name, text? flag with
    | none, some text => do
      let given ← assign given flag text
      complete text? given rest
    | _, _ => complete text? given rest

/-- The flags that have no value. -/
def open? (given : Assignment) (flags : List Flag) : List Flag :=
  flags.filter fun flag => (given.lookup flag.name).isNone

/-- The values of all flags of a command. -/
def read [Url.International] (command : Command) (arguments : List String)
    (environment : Environment) : Except Complaint Assignment := do
  let given ← readArguments command arguments
  let given ← complete (variableText environment) given command.flags
  let given ← complete Flag.fallback given command.flags
  match open? given command.flags with
  | [] => .ok given
  | flags => .error (.missing flags)

/-! ## Settings -/

namespace Assignment

/-- The text that a flag has. -/
def text (values : Assignment) (name : String) : String :=
  match values.lookup name with
  | some (.text text) => text
  | _ => ""

/-- The number of seconds that a flag has. -/
def seconds (values : Assignment) (name : String) : Nat :=
  match values.lookup name with
  | some (.seconds number) => number
  | _ => 0

/-- The URL that a flag has. -/
def url? (values : Assignment) (name : String) : Option Url :=
  match values.lookup name with
  | some (.url uri) => some uri
  | _ => none

/-- The settings of the jobs. -/
def jobSettings (values : Assignment) : JobSettings :=
  { jobsPath := ⟨text values "jobs-path"⟩
    teamName := text values "team-name"
    registry := text values "container-registry"
    metadataFileName := text values "metadata-file-name" }

/-- The settings for publishing. -/
def publishSettings (values : Assignment) : PublishSettings :=
  { jobs := jobSettings values
    credentials := { username := text values "username", password := text values "password" }
    engine := text values "container-engine" }

/-- The settings for notifying, if there is a URL. -/
def notifySettings? (values : Assignment) : Option NotifySettings :=
  (url? values "uri").map fun uri =>
    { jobs := jobSettings values
      coordinator := { uri, timeoutSeconds := seconds values "http-timeout-secs" }
      settleDelay := 1000 * seconds values "settle-delay-secs" }

end Assignment

/-- The settings for publishing that a command line and an environment give. -/
def readPublish [Url.International] (arguments : List String) (environment : Environment) :
    Except Complaint PublishSettings :=
  (read publishCommand arguments environment).map Assignment.publishSettings

/-- The settings for notifying that a command line and an environment give. -/
def readNotify [Url.International] (arguments : List String) (environment : Environment) :
    Except Complaint NotifySettings := do
  let values ← read notifyCommand arguments environment
  match Assignment.notifySettings? values with
  | some settings => .ok settings
  | none => .error (.missing (notifyCommand.flags.filter (·.kind = .url)))

end JobImages.CommandLine
