import JobImages.Url.Basic

/-!
# Requests that get no answer

A failure names the URL of the request as it was when the request was made, with user name and
password taken out.
-/

namespace JobImages.Http

/-- Why a request has no answer. -/
inductive Failure where
  /-- The server is not there, or closes the connection. -/
  | unanswered (uri : Url)
  /-- No request can be made to such a URL. -/
  | unusable (uri : Url)
  /-- Something else, in words. -/
  | stated (text : String)
  deriving DecidableEq

/-- The wording of a failure. -/
def Failure.message : Failure → String
  | .unanswered uri => s!"error sending request for url ({uri.print})"
  | .unusable uri => s!"builder error for url ({uri.print})"
  | .stated text => text

end JobImages.Http
