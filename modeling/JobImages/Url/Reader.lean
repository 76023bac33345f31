import JobImages.Url.Basic

/-!
# Reading URLs

An absolute URL is read from left to right: the scheme, for most schemes an authority, the path, the
query and the fragment.  Blanks and controls around the text do not count, nor do tabs and line ends
within it, except that in the path of a file they can end a drive.  Under a special scheme a
backslash is as good as a slash.  Every part comes out in the form in which it is written, and the
path comes out without dot segments.

## Main definitions

* `Url.Route.step` — a segment appended to a path, or taken away by a double dot;
* `Url.readUserInfo`, `Url.readPort`, `Url.readRoute`, `Url.readFile` — the parts;
* `Url.read` — a whole URL.
-/

namespace JobImages.Url

/-! ## Paths -/

/-- A segment that means the directory itself. -/
def isDot (segment : List Char) : Bool :=
  [".", "%2e"].contains (String.ofList (segment.map Char.toLower))

/-- A segment that means the directory above. -/
def isDoubleDot (segment : List Char) : Bool :=
  ["..", ".%2e", "%2e.", "%2e%2e"].contains (String.ofList (segment.map Char.toLower))

/-- A drive letter: a letter and a colon or a bar. -/
def isDrive : List Char → Bool
  | [letter, mark] => letter.isAlpha && (mark == ':' || mark == '|')
  | _ => false

/-- A segment that no double dot takes away: a drive, or what goes on with a backslash after one. -/
def isAnchored : List Char → Bool
  | letter :: mark :: rest => isDrive [letter, mark] && rest.head?.all (· == '\\')
  | _ => false

/-- The path after one more segment.  A double dot takes the last segment away, unless that is
anchored; a dot does nothing; but either leaves an empty segment behind at the end of the path. -/
def Route.step (path : List (List Char)) (segment : List Char) (last : Bool) : List (List Char) :=
  if isDoubleDot segment then
    let above := if path.getLast?.any isAnchored then path else path.dropLast
    if last then above ++ [[]] else above
  else if isDot segment then
    if last then path ++ [[]] else path
  else path ++ [encode inPath segment]

/-- The path after some more segments. -/
def Route.steps (path : List (List Char)) : List (List Char) → List (List Char)
  | [] => path
  | segment :: rest => steps (Route.step path segment rest.isEmpty) rest

/-- Whether a character separates segments. -/
def isSlash (special : Bool) (c : Char) : Bool :=
  c == '/' || (special && c == '\\')

/-- The pieces of a text between its slashes. -/
def splitAtSlashes (special : Bool) (text : List Char) : List (List Char) :=
  Text.splitOn '/' (text.map fun c => if isSlash special c then '/' else c)

/-- The segments of a path, given without the slash it begins with. -/
def readSegments (special : Bool) (text : List Char) : List (List Char) :=
  Route.steps [] (splitAtSlashes special text)

/-- The path after an authority: under a special scheme it has a segment at least. -/
def readRoute (special : Bool) (text : List Char) : Route :=
  match text with
  | [] => if special then .segments [[]] else .segments []
  | c :: rest =>
    if isSlash special c then .segments (readSegments special rest)
    else .segments (readSegments special text)

/-! ## Authorities -/

/-- Whether a character ends the authority. -/
def endsAuthority (special : Bool) (c : Char) : Bool :=
  c == '?' || c == '#' || isSlash special c

/-- A text cut at the last occurrence of a character, which belongs to neither part. -/
def cutAtLast (mark : Char) (text : List Char) : Option (List Char × List Char) :=
  if text.contains mark then
    let after := text.reverse.takeWhile (· != mark)
    some (text.take (text.length - after.length - 1), after.reverse)
  else none

/-- The user name and the password before the last at sign, and the rest. -/
def readUserInfo (text : List Char) : (List Char × List Char) × List Char :=
  match cutAtLast '@' text with
  | some (userInfo, rest) =>
    let username := userInfo.takeWhile (· != ':')
    let password := (userInfo.dropWhile (· != ':')).drop 1
    ((encode inUserInfo username, encode inUserInfo password), rest)
  | none => (([], []), text)

/-- The host before its port: brackets hide colons. -/
def hostLength (inBrackets : Bool) : List Char → Nat
  | [] => 0
  | c :: rest =>
    if c == ':' && !inBrackets then 0
    else hostLength (c == '[' || (inBrackets && c != ']')) rest + 1

/-- A port, which is a number below 2¹⁶ or left out, and what follows it.  It ends with the
authority, or at a backslash. -/
def readPort (scheme : List Char) (text : List Char) : Except Fault (Option Nat × List Char) := do
  let digits := text.takeWhile Char.isDigit
  let rest := text.drop digits.length
  let value := digits.foldl (fun value digit => value * 10 + (digit.toNat - '0'.toNat)) 0
  if 0x10000 ≤ value || !rest.head?.all (· == '\\') then .error .badPort
  let custom := !digits.isEmpty && defaultPort? scheme != some value
  .ok (if custom then some value else none, rest)

/-- A host and a port, and what follows them. -/
def readHostAndPort [International] (scheme : List Char) (text : List Char) :
    Except Fault (Host × Option Nat × List Char) := do
  let special := isSpecial scheme
  let length := hostLength false text
  let name := text.take length
  let rest := text.drop length
  if special && name.isEmpty then .error .emptyHost
  let host ← if special then Host.read name else Host.readAsWritten name
  if host.isEmpty && !rest.isEmpty then .error .emptyHost
  let (port, rest) ← readPort scheme (rest.drop 1)
  .ok (host, port, rest)

/-- An authority, and what follows it.  One that names a user has a host. -/
def readAuthority [International] (scheme : List Char) (text : List Char) :
    Except Fault (Authority × List Char) := do
  let ((username, password), rest) := readUserInfo text
  let (host, port, rest) ← readHostAndPort scheme rest
  if host.isEmpty && !(username.isEmpty && password.isEmpty) then .error .emptyHost
  .ok ({ username, password, host, port }, rest)

/-! ## Layout -/

/-- A tab or a line end, which is passed over wherever it stands. -/
def isLayout (c : Char) : Bool :=
  c == '\t' || c == '\n' || c == '\r'

/-- A text without its tabs and line ends. -/
def withoutLayout (text : List Char) : List Char :=
  text.filter (!isLayout ·)

/-- A text without the blanks and controls around it. -/
def trimmed (text : List Char) : List Char :=
  let trim (text : List Char) := text.dropWhile fun c => c.toNat ≤ 0x20
  (trim (trim text).reverse).reverse

/-! ## Files -/

/-- The path of a file. -/
structure FilePath where
  /-- The segments. -/
  segments : List (List Char)
  /-- Whether the path begins with a drive, which means this machine, whatever host is named. -/
  onDrive : Bool
  deriving DecidableEq

/-- A drive and what goes on after it, where layout stands between them. -/
def cutDrive? (segment : List Char) : Option (List Char × List Char) :=
  match segment.dropWhile isLayout with
  | letter :: rest =>
    match rest.dropWhile isLayout with
    | ':' :: mark :: rest =>
      let rest := withoutLayout rest
      if letter.isAlpha && isLayout mark && !rest.isEmpty then some ([letter, ':'], rest) else none
    | _ => none
  | [] => none

/-- The path of a file after one more segment, given with its layout.  At the beginning of the path
a drive is written with a colon; one that layout separates from what goes on is a segment of its
own, and the rest another, whatever that is. -/
def FilePath.step (path : FilePath) (segment : List Char) (last : Bool) : FilePath :=
  let text := withoutLayout segment
  match path.segments, cutDrive? segment, text with
  | [], some (drive, rest), _ => { path with segments := [drive, encode inPath rest] }
  | [], none, [letter, mark] =>
    if isDrive [letter, mark] then { segments := [[letter, ':']], onDrive := true }
    else { path with segments := Route.step [] text last }
  | segments, _, _ => { path with segments := Route.step segments text last }

/-- The path of a file after some more segments. -/
def FilePath.steps (path : FilePath) : List (List Char) → FilePath
  | [] => path
  | segment :: rest => FilePath.steps (path.step segment rest.isEmpty) rest

/-- Removes empty segments at the beginning of a path, but for the last. -/
def trimSegments : List (List Char) → List (List Char)
  | [] :: segment :: rest => trimSegments (segment :: rest)
  | path => path

/-- The path of a file, given with its layout. -/
def FilePath.read (text : List Char) : FilePath :=
  FilePath.steps { segments := [], onDrive := false } (splitAtSlashes true text)

/-- A path of a file has no empty segments at its beginning. -/
def FilePath.route (path : FilePath) : Route :=
  .segments (trimSegments path.segments)

/-- What follows a slash, if a text begins with one. -/
def afterSlash? (text : List Char) : Option (List Char) :=
  match text.dropWhile isLayout with
  | c :: rest => if isSlash true c then some rest else none
  | [] => none

/-- The host and the path of a file, read after two slashes.  A drive is no host, and the local host
is none either; what is no host, and the slash after it, belongs to the path. -/
def readFileHost [International] (text : List Char) : Except Fault (Host × Route) := do
  let before := text.takeWhile fun c => !isSlash true c
  let name := withoutLayout before
  if name.isEmpty || isDrive name then .ok (.named [], (FilePath.read text).route)
  else
    let after := text.drop before.length
    let host ← Host.read name
    if host = .named "localhost".toList then .ok (.named [], (FilePath.read after).route)
    else
      let path := FilePath.read (after.drop 1)
      .ok (if path.onDrive then .named [] else host, path.route)

/-- The host and the path of a file, given with their layout: two slashes come before a host. -/
def readFile [International] (text : List Char) : Except Fault (Host × Route) :=
  match afterSlash? text with
  | none => .ok (.named [], (FilePath.read text).route)
  | some rest =>
    match afterSlash? rest with
    | none => .ok (.named [], (FilePath.read rest).route)
    | some rest => readFileHost rest

/-! ## Whole URLs -/

/-- What a scheme may contain. -/
def isSchemeCharacter (c : Char) : Bool :=
  c.isAlphanum || c == '+' || c == '-' || c == '.'

/-- The scheme of a text and what follows its colon. -/
def cutScheme (text : List Char) : Option (List Char × List Char) :=
  let before := text.takeWhile (· != ':')
  let scheme := withoutLayout before
  match scheme, text.drop before.length with
  | first :: _, _ :: rest =>
    if first.isAlpha && scheme.all isSchemeCharacter then some (scheme.map Char.toLower, rest)
    else none
  | _, _ => none

/-- What a text has before the first of some characters, and what it has from there. -/
def cutBefore (marks : List Char) (text : List Char) : List Char × List Char :=
  (text.takeWhile fun c => !marks.contains c, text.dropWhile fun c => !marks.contains c)

/-- What follows the two slashes, or as many as there are under a special scheme. -/
def afterSlashes? (special : Bool) (text : List Char) : Option (List Char) :=
  if special then some (text.dropWhile (isSlash true))
  else
    match text with
    | '/' :: '/' :: rest => some rest
    | _ => none

/-- The authority and the path that follow a scheme, and what comes after them.  Layout only makes a
difference in the path of a file. -/
def readHierarchy [International] (scheme : List Char) (text : List Char) :
    Except Fault (Option Authority × Route × List Char) := do
  let special := isSpecial scheme
  if scheme = "file".toList then
    let (path, rest) := cutBefore ['?', '#'] text
    let (host, route) ← readFile path
    .ok (some { username := [], password := [], host, port := none }, route, rest)
  else
    let text := withoutLayout text
    match afterSlashes? special text with
    | some text => do
      let before := text.takeWhile fun c => !endsAuthority special c
      let after := text.drop before.length
      -- A sign alone before a path announces a host that is not there.
      if before = ['@'] && !after.isEmpty then .error .emptyHost
      let (authority, left) ← readAuthority scheme before
      let (path, rest) := cutBefore ['?', '#'] (left ++ after)
      .ok (some authority, readRoute special path, rest)
    | none =>
      -- Without an authority a path that begins with a slash has segments, and any other has none.
      let (path, rest) := cutBefore ['?', '#'] text
      match path with
      | '/' :: path => .ok (none, .segments (readSegments false path), rest)
      | path => .ok (none, .plain (encode isControl path), rest)

/-- An absolute URL. -/
def read [International] (text : String) : Except Fault Url :=
  match cutScheme (trimmed text.toList) with
  | none => .error .noScheme
  | some (scheme, rest) => do
    let (authority, route, rest) ← readHierarchy scheme rest
    let (query, rest) :=
      match withoutLayout rest with
      | '?' :: rest =>
        let (query, rest) := cutBefore ['#'] rest
        (some (encode (inQuery (isSpecial scheme)) query), rest)
      | rest => (none, rest)
    let fragment := rest.head?.map fun _ => encode inFragment (rest.drop 1)
    .ok { scheme, authority, route, query, fragment }

end JobImages.Url
