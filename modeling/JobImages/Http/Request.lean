import JobImages.Url.Basic

/-!
# Requests
-/

namespace JobImages.Http

/-- A request as it is sent. -/
structure Request where
  /-- The method. -/
  method : String
  /-- The URL, without user name, password and fragment. -/
  uri : Url
  /-- The type of the body. -/
  contentType : String
  /-- The authorization, if the URL names a user. -/
  authorization : Option String
  /-- The body. -/
  body : String
  deriving DecidableEq

end JobImages.Http
