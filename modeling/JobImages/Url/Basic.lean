import JobImages.Url.Host

/-!
# URLs

A URL by its parts, each in the form in which it is written: the scheme in lower case, everything
else percent-encoded as its place demands, a port only where it is not the scheme's own.

## Main definitions

* `Url` — the parts;
* `Url.write`, `Url.print` — the URL as text;
* `Url.withoutUserInfo`, `Url.target` — what is said about a request, and what is requested.
-/

namespace JobImages

namespace Url

/-- Who is asked, and on whose behalf. -/
structure Authority where
  /-- The user name, possibly empty. -/
  username : List Char
  /-- The password, possibly empty. -/
  password : List Char
  /-- The host. -/
  host : Host
  /-- The port, if it is not the scheme's own. -/
  port : Option Nat
  deriving DecidableEq

/-- The path of a URL. -/
inductive Route where
  /-- Segments, each after a slash. -/
  | segments (list : List (List Char))
  /-- A text of no structure. -/
  | plain (text : List Char)
  deriving DecidableEq

end Url

/-- An absolute URL. -/
structure Url where
  /-- The scheme, in lower case. -/
  scheme : List Char
  /-- The part after two slashes, if the URL has one. -/
  authority : Option Url.Authority
  /-- The path. -/
  route : Url.Route
  /-- The part after a question mark. -/
  query : Option (List Char)
  /-- The part after a number sign. -/
  fragment : Option (List Char)
  deriving DecidableEq

namespace Url

/-- The schemes under which a URL always has a host and its path always has segments. -/
def specialSchemes : List String :=
  ["http", "https", "ftp", "ws", "wss", "file"]

/-- Whether a scheme is one of those. -/
def isSpecial (scheme : List Char) : Bool :=
  specialSchemes.contains (String.ofList scheme)

/-- The port that a scheme uses when none is given. -/
def defaultPort? (scheme : List Char) : Option Nat :=
  [("http", 80), ("https", 443), ("ftp", 21), ("ws", 80), ("wss", 443)].lookup
    (String.ofList scheme)

/-- The user name and the password before the sign that ends them, or nothing. -/
def Authority.writeUserInfo (authority : Authority) : List Char :=
  let password := if authority.password.isEmpty then [] else ':' :: authority.password
  let userInfo := authority.username ++ password
  if userInfo.isEmpty then [] else userInfo ++ ['@']

/-- The authority of a URL. -/
def Authority.write (authority : Authority) : List Char :=
  authority.writeUserInfo ++ authority.host.write ++
    (match authority.port with
      | some port => ':' :: Nat.toDigits 10 port
      | none => [])

/-- The path of a URL. -/
def Route.write : Route → List Char
  | .segments list => list.flatMap ('/' :: ·)
  | .plain text => text

/-- What stands before the path: the authority, or a mark that keeps a path which begins with two
slashes from being taken for one. -/
def writeAuthority (url : Url) : List Char :=
  match url.authority, url.route with
  | some authority, _ => '/' :: '/' :: authority.write
  | none, .segments ([] :: _ :: _) => ['/', '.']
  | none, _ => []

/-- A part with the character that announces it, or nothing. -/
def writePart (mark : Char) : Option (List Char) → List Char
  | some part => mark :: part
  | none => []

/-- The characters of a URL. -/
def write (url : Url) : List Char :=
  url.scheme ++ ':' :: url.writeAuthority ++ url.route.write ++ writePart '?' url.query ++
    writePart '#' url.fragment

/-- The text of a URL. -/
def print (url : Url) : String :=
  String.ofList url.write

/-- The URL without its user name and password. -/
def withoutUserInfo (url : Url) : Url :=
  { url with authority := url.authority.map fun a => { a with username := [], password := [] } }

/-- What a request names: the URL without user name, password and fragment. -/
def target (url : Url) : Url :=
  { url.withoutUserInfo with fragment := none }

/-- The scheme as a text. -/
def schemeName (url : Url) : String :=
  String.ofList url.scheme

/-- Whether the scheme is that of HTTP, encrypted or not. -/
def isHttp (url : Url) : Bool :=
  url.schemeName == "http" || url.schemeName == "https"

end Url

end JobImages
