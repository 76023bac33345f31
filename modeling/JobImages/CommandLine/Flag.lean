import JobImages.Url.Reader

/-!
# Flags

Every setting of a command is a flag and an environment variable.  A flag takes one value, of one of
a few kinds; some have a value of their own when none is given, and the others have to be given.

## Main definitions

* `CommandLine.Kind`, `CommandLine.Value` — the kinds of value, and values;
* `CommandLine.Kind.read` — the value that a text stands for, or why it stands for none;
* `CommandLine.Flag` — a flag;
* `CommandLine.Command` — a command with its flags.
-/

namespace JobImages.CommandLine

/-- The kinds of value. -/
inductive Kind where
  /-- Any text. -/
  | text
  /-- A path, which is not empty. -/
  | path
  /-- A number of seconds, of 64 bits. -/
  | seconds
  /-- An absolute URL. -/
  | url
  deriving DecidableEq

/-- A value of a flag. -/
inductive Value where
  /-- A text or a path. -/
  | text (text : String)
  /-- A number of seconds. -/
  | seconds (number : Nat)
  /-- A URL. -/
  | url (uri : Url)
  deriving DecidableEq

/-- Why a text is no value of a kind. -/
inductive ValueFault where
  /-- There is nothing where something has to be. -/
  | missing
  /-- There is no digit at all. -/
  | noDigits
  /-- Something is no digit. -/
  | badDigit
  /-- The number does not fit. -/
  | tooLarge
  /-- It is no absolute URL. -/
  | badUrl (fault : Url.Fault)
  deriving DecidableEq

/-- The wording of a fault in a value that is there. -/
def ValueFault.message : ValueFault → String
  | .missing => "a value is required"
  | .noDigits => "cannot parse integer from empty string"
  | .badDigit => "invalid digit found in string"
  | .tooLarge => "number too large to fit in target type"
  | .badUrl fault => fault.message

/-- The number that digits denote, after some digits.  The first digit that is none, or at which the
number gets too large, decides what is wrong. -/
def readDigits (value : Nat) : List Char → Except ValueFault Nat
  | [] => .ok value
  | c :: rest =>
    if !c.isDigit then .error .badDigit
    else
      let next := value * 10 + (c.toNat - '0'.toNat)
      if next < 0x10000000000000000 then readDigits next rest else .error .tooLarge

/-- A number of 64 bits in decimal, a plus sign before it allowed. -/
def readSeconds (text : List Char) : Except ValueFault Nat :=
  match text with
  | [] => .error .noDigits
  | ['+'] => .error .badDigit
  | '+' :: digits => readDigits 0 digits
  | digits => readDigits 0 digits

/-- The value of a kind that a text stands for. -/
def Kind.read [Url.International] (kind : Kind) (text : String) : Except ValueFault Value :=
  match kind with
  | .text => .ok (.text text)
  | .path => if text.isEmpty then .error .missing else .ok (.text text)
  | .seconds => (readSeconds text.toList).map .seconds
  | .url =>
    match Url.read text with
    | .ok uri => .ok (.url uri)
    | .error fault => .error (.badUrl fault)

/-- A flag. -/
structure Flag where
  /-- Its name, without dashes. -/
  name : String
  /-- What its value is called. -/
  valueName : String
  /-- The environment variable that stands in for it. -/
  variableName : String
  /-- What it is for. -/
  help : String
  /-- The kind of its value. -/
  kind : Kind
  /-- The text of its value when there is no other. -/
  fallback : Option String
  /-- Whether its value must not be shown. -/
  secret : Bool := false
  deriving DecidableEq

/-- The name of a flag with its dashes. -/
def Flag.long (flag : Flag) : String :=
  "--" ++ flag.name

/-- A flag with its value, as messages name it. -/
def Flag.usage (flag : Flag) : String :=
  s!"{flag.long} <{flag.valueName}>"

/-- A command. -/
structure Command where
  /-- Its name. -/
  name : String
  /-- What it does. -/
  about : String
  /-- Its flags, in the order in which they are listed. -/
  flags : List Flag

/-- The version of the commands. -/
def version : String := "0.1.0"

/-- The name of a command with its version. -/
def Command.versionLine (command : Command) : String :=
  s!"{command.name} {version}"

/-- The flag of a name. -/
def Command.flag? (command : Command) (name : String) : Option Flag :=
  command.flags.find? (·.name == name)

/-! ## The commands -/

/-- The flags of the jobs, which the commands share. -/
def jobFlags : List Flag :=
  [{ name := "jobs-path", valueName := "JOBS_PATH", variableName := "PROCTOR_JOBS_PATH"
     help := "Directory whose immediate subdirectories are jobs", kind := .path, fallback := none },
    { name := "team-name", valueName := "TEAM_NAME", variableName := "PROCTOR_JOB_TEAM_NAME"
      help := "Team prefix for image names", kind := .text, fallback := some "test" },
    { name := "container-registry", valueName := "CONTAINER_REGISTRY"
      variableName := "PROCTOR_CONTAINER_REGISTRY"
      help := "Registry host and path prefix", kind := .text
      fallback := some "docker.io/proctorscripts" },
    { name := "metadata-file-name", valueName := "METADATA_FILE_NAME"
      variableName := "PROCTOR_METADATA_FILE_NAME"
      help := "Metadata file name inside each job directory", kind := .text
      fallback := some "metadata.json" }]

/-- The command that publishes. -/
def publishCommand : Command where
  name := "proctor-publish"
  about := "Build and push a container image for every proctor job"
  flags := jobFlags ++
    [{ name := "username", valueName := "USERNAME", variableName := "DOCKERHUB_USERNAME"
       help := "Registry username", kind := .text, fallback := none },
      { name := "password", valueName := "PASSWORD", variableName := "DOCKERHUB_PASSWORD"
        help := "Registry password (passed to the engine on stdin)", kind := .text
        fallback := none, secret := true },
      { name := "container-engine", valueName := "CONTAINER_ENGINE"
        variableName := "PROCTOR_CONTAINER_ENGINE"
        help := "Container engine executable", kind := .text, fallback := some "docker" }]

/-- The command that notifies. -/
def notifyCommand : Command where
  name := "proctor-notify"
  about := "Send every proctor job's metadata and image name to proctord"
  flags := jobFlags ++
    [{ name := "uri", valueName := "URI", variableName := "PROCTOR_URI"
       help := "Coordinator endpoint receiving the job metadata", kind := .url, fallback := none },
      { name := "settle-delay-secs", valueName := "SETTLE_DELAY_SECS"
        variableName := "PROCTOR_SETTLE_DELAY_SECS"
        help := "Seconds to wait before scanning the jobs directory", kind := .seconds
        fallback := some "2" },
      { name := "http-timeout-secs", valueName := "HTTP_TIMEOUT_SECS"
        variableName := "PROCTOR_HTTP_TIMEOUT_SECS"
        help := "HTTP request timeout in seconds", kind := .seconds, fallback := some "30" }]

end JobImages.CommandLine
