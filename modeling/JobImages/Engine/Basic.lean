import JobImages.Engine.Call
import JobImages.Run

/-!
# Container engines

An engine answers calls.  Its answer may depend on every call made before, so an engine is a
function of that history; engines that keep no history are a special case.

## Main definitions

* `Engine` — how calls are answered;
* `Engine.call` — the run that is one call;
* `Engine.refusing` — an engine in memory, which refuses certain calls.
-/

namespace JobImages

/-- Something that builds and pushes images. -/
structure Engine where
  /-- The answer to a call, given those before it in order. -/
  respond : List Engine.Call → Engine.Call → Answer

namespace Engine

/-- A call, as a run. -/
def call (engine : Engine) (earlier : List Call) (next : Call) : Run Unit :=
  Run.turnTo (.call next) (engine.respond earlier next)

/-- A call by what it does and to what. -/
def Call.summary : Call → String
  | .login credentials => s!"login {credentials.username}"
  | .build image _ => s!"build {image.reference}"
  | .push image => s!"push {image.reference}"

/-- An engine that has no effects.  It refuses the calls for which `refusal?` has a reason, and does
the others. -/
def refusing (refusal? : Call → Option String) : Engine where
  respond _ next :=
    match refusal? next with
    | some reason =>
      { effects := [], result := .error (.engineFailed next.summary (.stated reason)) }
    | none => { effects := [], result := .ok () }

end Engine

end JobImages
