import JobImages.Engine.Ending
import JobImages.Http.Failure
import JobImages.Json.Fault
import JobImages.Json.Basic
import JobImages.Settings

/-!
# Errors

Why a run ends early.  Every error names its cause; the wording is derived from it in one place.

## Main definitions

* `MetadataDefect` — why a text is no metadata at all;
* `Error` — the errors, with their text `Error.message`.
-/

namespace JobImages

/-- Why a text is not a metadata object. -/
inductive MetadataDefect where
  /-- It is not JSON. -/
  | malformed (fault : Json.Fault)
  /-- It is some other value, of the given kind. -/
  | notObject (kind : String)
  /-- Something else, in words. -/
  | stated (text : String)
  deriving DecidableEq

/-- The wording of a defect. -/
def MetadataDefect.message : MetadataDefect → String
  | .malformed fault => fault.message
  | .notObject kind => s!"expected a JSON object, found {kind}"
  | .stated text => text

/-- Why a run ends early. -/
inductive Error where
  /-- The system could not read a file. -/
  | system (cause : SystemError)
  /-- The settings are wrong. -/
  | settings (problem : SettingsProblem)
  /-- The jobs root could not be listed. -/
  | rootUnreadable (root : Path) (cause : SystemError)
  /-- A metadata file holds no metadata object. -/
  | metadataDefective (path : Path) (defect : MetadataDefect)
  /-- A metadata object has no name. -/
  | nameMissing (path : Path)
  /-- A command of the container engine did not succeed. -/
  | engineFailed (command : String) (failure : Engine.Failure)
  /-- The coordinator did not accept the metadata. -/
  | rejected (status : Nat) (body : String)
  /-- A text is not JSON. -/
  | json (fault : Json.Fault)
  /-- The coordinator gave no answer. -/
  | http (failure : Http.Failure)
  deriving DecidableEq

/-- The wording of an error. -/
def Error.message : Error → String
  | .system cause => cause.message
  | .settings problem => problem.message
  | .rootUnreadable root cause => s!"Failed to read jobs directory '{root.text}': {cause.message}"
  | .metadataDefective path defect =>
    s!"Failed to parse metadata file '{path.text}': {defect.message}"
  | .nameMissing path => s!"Metadata file '{path.text}' has no string 'name' field"
  | .engineFailed command failure => s!"{command} exited with non-zero code ({failure.message})"
  | .rejected status body => s!"Coordinator responded with status {status}: {body}"
  | .json fault => fault.message
  | .http failure => s!"HTTP request to coordinator failed: {failure.message}"

end JobImages
