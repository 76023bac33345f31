import JobImages.Text.Split

/-!
# Paths

A path is the text that was written, kept as it is.  Two paths are alike when they have the same
components, whatever the separators between them.

## Main definitions

* `Path` — the text of a path;
* `Path.join` — a path below another, or in its place when it is absolute;
* `Path.components` — the parts that matter;
* `Path.alike` — the same components.
-/

namespace JobImages

/-- A path as it was written. -/
structure Path where
  /-- The text. -/
  text : String
  deriving DecidableEq

namespace Path

/-- A part of a path. -/
inductive Component where
  /-- The beginning of an absolute path. -/
  | root
  /-- The directory itself. -/
  | here
  /-- The directory above. -/
  | up
  /-- An entry of the directory. -/
  | name (text : List Char)
  deriving DecidableEq

/-- Whether the path begins at the root of the file system. -/
def isAbsolute (path : Path) : Bool :=
  path.text.toList.head? == some '/'

/-- The path `other` as seen from `path`.  An absolute path is seen the same from everywhere; any
other is written behind, after a separator unless there is one or nothing precedes it. -/
def join (path other : Path) : Path :=
  if other.isAbsolute then other
  else if path.text.toList.getLast?.all (· == '/') then ⟨path.text ++ other.text⟩
  else ⟨path.text ++ "/" ++ other.text⟩

/-- The components a piece between separators contributes: empty pieces and dots none. -/
def ofPiece (piece : List Char) : List Component :=
  match piece with
  | [] => []
  | ['.'] => []
  | ['.', '.'] => [.up]
  | text => [.name text]

/-- The components of a path.  A dot counts only at the beginning of a relative path. -/
def components (path : Path) : List Component :=
  match Text.splitOn '/' path.text.toList with
  | [] => []
  | ['.'] :: pieces => .here :: pieces.flatMap ofPiece
  -- An absolute path begins with an empty piece, which contributes nothing by itself.
  | pieces => (if path.isAbsolute then [.root] else []) ++ pieces.flatMap ofPiece

/-- Whether two paths have the same components. -/
def alike (path other : Path) : Bool :=
  path.components == other.components

end Path

end JobImages
