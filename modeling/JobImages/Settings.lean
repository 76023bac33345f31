import JobImages.Image
import JobImages.Path
import JobImages.Text.Quoted
import JobImages.Text.WhiteSpace
import JobImages.Url.Basic

/-!
# Settings

What a run is told: where the jobs are and how their images are named, which registry and engine to
publish with, which coordinator to notify.  A run checks its settings before it does anything.

## Main definitions

* `JobSettings`, `Credentials`, `PublishSettings` — for publishing;
* `CoordinatorSettings`, `NotifySettings` — for notifying;
* `SettingsProblem` — what can be wrong with them;
* the `check` of each — the first problem, in a fixed order.
-/

namespace JobImages

/-- What is wrong with some settings. -/
inductive SettingsProblem where
  /-- No jobs root is given. -/
  | jobsPathEmpty
  /-- The team's name is blank. -/
  | teamBlank
  /-- The registry is blank. -/
  | registryBlank
  /-- The name of the metadata file is blank. -/
  | fileNameBlank
  /-- The name of the metadata file contains a separator. -/
  | fileNameSeparated (name : String)
  /-- The registry's user name is blank. -/
  | usernameBlank
  /-- The container engine is blank. -/
  | engineBlank
  /-- Requests get no time at all. -/
  | timeoutZero
  /-- The coordinator is not reached by HTTP. -/
  | schemeUnsupported (uri : Url)
  /-- No client can be made for the coordinator. -/
  | clientFailed (reason : String)
  /-- Something else, in words. -/
  | stated (text : String)
  deriving DecidableEq

/-- The wording of a problem. -/
def SettingsProblem.message : SettingsProblem → String
  | .jobsPathEmpty => "jobs path must not be empty"
  | .teamBlank => "team name must not be empty"
  | .registryBlank => "container registry must not be empty"
  | .fileNameBlank => "metadata file name must not be empty"
  | .fileNameSeparated name => s!"metadata file name '{name}' must not contain a path separator"
  | .usernameBlank => "registry username must not be empty"
  | .engineBlank => "container engine must not be empty"
  | .timeoutZero => "HTTP timeout must be greater than 0"
  | .schemeUnsupported uri => s!"coordinator URI '{uri.print}' must use http or https"
  | .clientFailed reason => s!"Failed to create HTTP client: {reason}"
  | .stated text => text

/-- The outcome of a check. -/
abbrev Check := Except SettingsProblem Unit

/-- Passes unless a condition holds. -/
def refuseIf (bad : Bool) (problem : SettingsProblem) : Check :=
  if bad then .error problem else .ok ()

/-! ## Jobs -/

/-- What publishing and notifying share. -/
structure JobSettings where
  /-- The directory whose subdirectories are jobs. -/
  jobsPath : Path
  /-- The team, which begins every image's name. -/
  teamName : String := "test"
  /-- The registry with its path. -/
  registry : String := "docker.io/proctorscripts"
  /-- The name of every job's metadata file. -/
  metadataFileName : String := "metadata.json"
  deriving DecidableEq

namespace JobSettings

/-- The image of the job of a given name. -/
def image (settings : JobSettings) (name : String) : Image :=
  Image.ofJob settings.registry settings.teamName name

/-- The names must not be blank, and that of the metadata file must be the name of an entry. -/
def check (settings : JobSettings) : Check := do
  refuseIf settings.jobsPath.text.isEmpty .jobsPathEmpty
  refuseIf (Text.isBlank settings.teamName) .teamBlank
  refuseIf (Text.isBlank settings.registry) .registryBlank
  refuseIf (Text.isBlank settings.metadataFileName) .fileNameBlank
  refuseIf (settings.metadataFileName.toList.any fun c => c == '/' || c == '\\')
    (.fileNameSeparated settings.metadataFileName)

end JobSettings

/-! ## Publishing -/

/-- How to log in at the registry. -/
structure Credentials where
  /-- The user name. -/
  username : String
  /-- The password. -/
  password : String
  deriving DecidableEq

/-- What publishing is told. -/
structure PublishSettings where
  /-- The jobs. -/
  jobs : JobSettings
  /-- The login. -/
  credentials : Credentials
  /-- The program that builds and pushes. -/
  engine : String := "docker"
  deriving DecidableEq

namespace PublishSettings

/-- The checks of the jobs, then the user name and the engine, which must not be blank.  A password
may be. -/
def check (settings : PublishSettings) : Check := do
  settings.jobs.check
  refuseIf (Text.isBlank settings.credentials.username) .usernameBlank
  refuseIf (Text.isBlank settings.engine) .engineBlank

/-- A record in a diagnostic: its name and its fields, each with its value. -/
def describeRecord (name : String) (fields : List (String × String)) : String :=
  let written := fields.map fun field => field.1 ++ ": " ++ field.2
  name ++ " \x7b " ++ ", ".intercalate written ++ " \x7d"

/-- The settings in a diagnostic, which never shows the password. -/
def describe (settings : PublishSettings) : String :=
  describeRecord "PublishConfig"
    [("jobs", describeRecord "JobsConfig"
        [("jobs_path", Text.quoted settings.jobs.jobsPath.text),
          ("team_name", Text.quoted settings.jobs.teamName),
          ("container_registry", Text.quoted settings.jobs.registry),
          ("metadata_file_name", Text.quoted settings.jobs.metadataFileName)]),
      ("credentials", describeRecord "RegistryCredentials"
        [("username", Text.quoted settings.credentials.username),
          ("password", Text.quoted "[REDACTED]")]),
      ("container_engine", Text.quoted settings.engine)]

end PublishSettings

/-! ## Notifying -/

/-- How to reach the coordinator. -/
structure CoordinatorSettings where
  /-- The endpoint that takes the metadata. -/
  uri : Url
  /-- How many seconds a request may take. -/
  timeoutSeconds : Nat := 30
  deriving DecidableEq

/-- Requests get some time, and go by HTTP. -/
def CoordinatorSettings.check (settings : CoordinatorSettings) : Check := do
  refuseIf (settings.timeoutSeconds == 0) .timeoutZero
  refuseIf (!settings.uri.isHttp) (.schemeUnsupported settings.uri)

/-- What notifying is told. -/
structure NotifySettings where
  /-- The jobs. -/
  jobs : JobSettings
  /-- The coordinator. -/
  coordinator : CoordinatorSettings
  /-- How many milliseconds to wait first. -/
  settleDelay : Nat := 2000
  deriving DecidableEq

/-- The checks of the jobs, then those of the coordinator. -/
def NotifySettings.check (settings : NotifySettings) : Check := do
  settings.jobs.check
  settings.coordinator.check

end JobImages
