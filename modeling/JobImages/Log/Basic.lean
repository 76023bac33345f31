/-!
# Diagnostic records

A run remarks on what it does.  Each remark comes from one part of the run and has a level; a filter
says which remarks are shown.

## Main definitions

* `Log.Level`, `Log.Source` — how important a remark is, and where it comes from;
* `Log.Record` — a remark, with its text `Log.Record.line`.
-/

namespace JobImages.Log

/-- The importance of a remark, from the least detail to the most. -/
inductive Level where
  /-- The run fails. -/
  | error
  /-- Something may be wrong. -/
  | warn
  /-- Something was achieved. -/
  | info
  /-- Something is about to happen. -/
  | debug
  /-- Everything. -/
  | trace
  deriving DecidableEq

/-- How much detail a level stands for. -/
def Level.detail : Level → Nat
  | .error => 1
  | .warn => 2
  | .info => 3
  | .debug => 4
  | .trace => 5

/-- The name of a level. -/
def Level.name : Level → String
  | .error => "ERROR"
  | .warn => "WARN"
  | .info => "INFO"
  | .debug => "DEBUG"
  | .trace => "TRACE"

/-- The parts of a run that remark on what they do. -/
inductive Source where
  /-- The listing of jobs. -/
  | catalog
  /-- The commands of the engine. -/
  | engine
  /-- The requests to the coordinator. -/
  | coordinator
  /-- Publishing as a whole. -/
  | publishing
  /-- Notifying as a whole. -/
  | notifying
  deriving DecidableEq

/-- The name by which a filter refers to a source. -/
def Source.name : Source → String
  | .catalog => "proctor_jobs::adapters::jobs_filesystem"
  | .engine => "proctor_jobs::adapters::container_engine_command"
  | .coordinator => "proctor_jobs::adapters::coordinator_http"
  | .publishing => "proctor_jobs::app::commands::publish"
  | .notifying => "proctor_jobs::app::commands::notify"

/-- A remark. -/
structure Record where
  /-- Where it comes from. -/
  source : Source
  /-- Its importance. -/
  level : Level
  /-- What it says. -/
  message : String
  /-- What it says it about: names and values. -/
  fields : List (String × String)
  deriving DecidableEq

/-- The text of a remark: level, message, and each field as name and value. -/
def Record.line (record : Record) : String :=
  " ".intercalate (record.level.name :: record.message ::
    record.fields.map fun field => field.1 ++ "=" ++ field.2)

/-- The names of what a remark is made of. -/
def Record.fieldNames (record : Record) : List String :=
  "message" :: record.fields.map Prod.fst

end JobImages.Log
