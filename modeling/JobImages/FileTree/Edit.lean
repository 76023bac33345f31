import JobImages.FileTree.Resolve

/-!
# Making trees

Trees are made step by step: directories with those above them, files, links, and what undoes them.
Links on the way to a place are followed.  A link at the place itself is followed only for writing a
file; removing and renaming take the link, and slashes at the end of a path change nothing there.

## Main definitions

* `FileTree.Change` — the steps;
* `FileTree.Change.apply` — the tree after a step;
* `FileTree.make` — the tree after some steps.
-/

namespace JobImages.FileTree

/-- A step in the making of a tree. -/
inductive Change where
  /-- A directory, and those above it as far as they are missing. -/
  | directory (path : Path)
  /-- A file with its content, and the directories above it. -/
  | file (path : Path) (content : List UInt8)
  /-- A symbolic link. -/
  | link (path : Path) (target : Path)
  /-- Removes an entry and all that is below it. -/
  | remove (path : Path)
  /-- Moves an entry and all that is below it. -/
  | rename (path : Path) (target : Path)

/-- The place of an entry, on a way from some directory: the one that holds the entry is found with
links followed. -/
def locate (tree : FileTree) (start : Location) (steps : List Step) :
    Except SystemError Location :=
  match walk tree linkLimit start steps.dropLast, steps.getLast? with
  | .ok (.directory location), some (.enter name) =>
    if isTooLong name then .error .nameTooLong else .ok (location ++ [name])
  | .ok (.file _ _), _ => .error .notDirectory
  | .error cause, _ => .error cause
  | _, _ => .error .noEntry

/-- The place of the entry that a path names, whatever slashes stand at its end. -/
def locateEntry (tree : FileTree) (path : Path) : Except SystemError Location :=
  let text := String.ofList (path.text.toList.reverse.dropWhile (· == '/')).reverse
  locate tree (startOf path tree.home) (stepsOf ⟨text⟩)

/-- The place of an entry that is there. -/
def locatePresent (tree : FileTree) (path : Path) : Except SystemError Location := do
  let location ← locateEntry tree path
  if (tree.node? location).isNone then .error .noEntry
  .ok location

/-- Makes the directories on a way as far as they are missing.  None is made where a link leads. -/
def makeDirectories (tree : FileTree) (start : Location) (done : List Step) :
    List Step → Except SystemError FileTree
  | [] => .ok tree
  | step :: rest => do
    let path := done ++ [step]
    match ← walk tree linkLimit start path with
    | .directory _ => makeDirectories tree start path rest
    | .file _ _ => .error .notDirectory
    | .vacant location =>
      -- The way ends at another place than it names when it ends with a link.
      if (← locate tree start path) ≠ location then .error .entryExists
      makeDirectories (tree.put location .directory) start path rest

/-- Makes the directory of an entry, and those above it. -/
def makeHolder (tree : FileTree) (path : Path) : Except SystemError FileTree :=
  makeDirectories tree (startOf path tree.home) [] (stepsOf path).dropLast

/-- The tree after a step. -/
def Change.apply (tree : FileTree) : Change → Except SystemError FileTree
  | .directory path => makeDirectories tree (startOf path tree.home) [] (stepsOf path)
  | .file path content => do
    let tree ← makeHolder tree path
    match ← resolve tree path with
    | .file location _ => .ok (tree.put location (.file content))
    | .vacant location => .ok (tree.put location (.file content))
    | .directory _ => .error .isDirectory
  | .link path target => do
    let tree ← makeHolder tree path
    let location ← locate tree (startOf path tree.home) (stepsOf path)
    if (tree.node? location).isSome then .error .entryExists
    .ok (tree.put location (.link target))
  | .remove path => do
    let location ← locatePresent tree path
    .ok (tree.removeBelow location)
  | .rename path target => do
    let source ← locatePresent tree path
    let target ← locateEntry tree target
    .ok (tree.move source target)

/-- The tree after some steps, each done as far as it can be. -/
def make (tree : FileTree) (changes : List Change) : FileTree :=
  changes.foldl (fun tree change => (change.apply tree).toOption.getD tree) tree

end JobImages.FileTree
