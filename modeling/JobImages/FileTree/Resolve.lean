import JobImages.FileTree.Basic
import JobImages.SystemError
import JobImages.Text.Bytes

/-!
# Resolving paths

What a path means in a tree.  An absolute path is followed from the root of the system, any other
from a directory, which is usually the one in which the program is at work.  The names are followed
one by one; a link on the way is replaced by its target, and two dots lead to the directory above
the one that was actually reached.  Above the root there is the root itself.

The walk is a recursion on the names left; each link that is followed starts it anew with one link
less to spare, so that a loop of links comes to an end.

## Main definitions

* `FileTree.Found` — what a path leads to;
* `FileTree.walk` — the walk, with a number of links to spare;
* `FileTree.resolveFrom`, `FileTree.resolve` — what a path leads to, or why it leads nowhere;
* `FileTree.readFile`, `FileTree.readText` — the content of a file.
-/

namespace JobImages.FileTree

/-- What a path leads to. -/
inductive Found where
  /-- A directory. -/
  | directory (location : Location)
  /-- A file, with its place and its content. -/
  | file (location : Location) (content : List UInt8)
  /-- Nothing, at a place in a directory that is there. -/
  | vacant (location : Location)
  deriving DecidableEq

/-- A step of a walk. -/
inductive Step where
  /-- To the directory itself, which has to be one. -/
  | stay
  /-- To the directory above. -/
  | up
  /-- To an entry. -/
  | enter (name : Name)
  deriving DecidableEq

/-- The step that a piece between separators asks for. -/
def Step.ofPiece (piece : Name) : Step :=
  match piece with
  | [] => .stay
  | ['.'] => .stay
  | ['.', '.'] => .up
  | name => .enter name

/-- The steps of a path. -/
def stepsOf (path : Path) : List Step :=
  (Text.splitOn '/' path.text.toList).map Step.ofPiece

/-- Where a path starts: at the root if it is absolute, and else at the directory from which it is
seen. -/
def startOf (path : Path) (place : Location) : Location :=
  if path.isAbsolute then [] else place

/-- The greatest number of bytes in a name. -/
def nameLimit : Nat := 255

/-- The least number of bytes that is too many for a path. -/
def pathLimit : Nat := 4096

/-- How many links one walk may follow. -/
def linkLimit : Nat := 40

/-- Whether a name is longer than names can be. -/
def isTooLong (name : Name) : Bool :=
  nameLimit < (String.ofList name).utf8ByteSize

/-- A walk that leaves what happens at a link to `follow`, which gets the directory that holds the
link, the target, and the steps after it. -/
def walkFrom (tree : FileTree)
    (follow : Location → Path → List Step → Except SystemError Found) :
    Location → List Step → Except SystemError Found
  | place, [] => .ok (.directory place)
  | place, .stay :: rest => walkFrom tree follow place rest
  -- No name leads to the root, and the directory above it is the root.
  | place, .up :: rest => walkFrom tree follow place.dropLast rest
  | place, .enter name :: rest =>
    if isTooLong name then .error .nameTooLong
    else
      match tree.node? (place ++ [name]) with
      -- Nothing can be below a place where nothing stands.
      | none => if rest.isEmpty then .ok (.vacant (place ++ [name])) else .error .noEntry
      | some .directory => walkFrom tree follow (place ++ [name]) rest
      -- Even a separator behind a file asks for a directory.
      | some (.file content) =>
        if rest.isEmpty then .ok (.file (place ++ [name]) content) else .error .notDirectory
      | some (.link target) => follow place target rest

/-- A walk that may follow so many links. -/
def walk (tree : FileTree) : Nat → Location → List Step → Except SystemError Found
  | 0 => walkFrom tree fun _ _ _ => .error .tooManyLinks
  | links + 1 =>
    walkFrom tree fun place target rest =>
      walk tree links (startOf target place) (stepsOf target ++ rest)

/-- Refuses what no path can be. -/
def checkPath (path : Path) : Except SystemError Unit :=
  if path.text.toList.contains '\x00' then .error .nulInFileName
  else if path.text.isEmpty then .error .noEntry
  else if pathLimit ≤ path.text.utf8ByteSize then .error .nameTooLong
  else .ok ()

/-- What a path leads to, seen from a directory. -/
def resolveFrom (tree : FileTree) (place : Location) (path : Path) : Except SystemError Found := do
  checkPath path
  walk tree linkLimit (startOf path place) (stepsOf path)

/-- What a path leads to, seen from the directory in which the program is at work. -/
def resolve (tree : FileTree) (path : Path) : Except SystemError Found :=
  resolveFrom tree tree.home path

/-- The directory that a path leads to. -/
def resolveDirectory (tree : FileTree) (path : Path) : Except SystemError Location :=
  match resolve tree path with
  | .ok (.directory location) => .ok location
  | .ok (.file _ _) => .error .notDirectory
  | .ok (.vacant _) => .error .noEntry
  | .error cause => .error cause

/-- Whether a path leads to a directory. -/
def isDirectory (tree : FileTree) (path : Path) : Bool :=
  match resolve tree path with
  | .ok (.directory _) => true
  | _ => false

/-- The names of the entries of the directory that a path leads to, in no particular order. -/
def list (tree : FileTree) (path : Path) : Except SystemError (List Name) :=
  match resolveDirectory tree path with
  | .ok location => .ok (tree.names location)
  | .error cause => .error cause

/-- The bytes of the file that a path leads to. -/
def readFile (tree : FileTree) (path : Path) : Except SystemError (List UInt8) :=
  match resolve tree path with
  | .ok (.file _ content) => .ok content
  | .ok (.directory _) => .error .isDirectory
  | .ok (.vacant _) => .error .noEntry
  | .error cause => .error cause

/-- The text of the file that a path leads to, which has to be UTF-8. -/
def readText (tree : FileTree) (path : Path) : Except SystemError String :=
  match readFile tree path with
  | .ok content =>
    match Text.ofBytes? content with
    | some text => .ok text
    | none => .error .notText
  | .error cause => .error cause

end JobImages.FileTree
