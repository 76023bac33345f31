import JobImages.FileTree.Basic
import JobImages.Image
import JobImages.Settings

/-!
# Calls of a container engine

What publishing asks of a container engine, and the processes that come of it when the engine is a
program.
-/

namespace JobImages.Engine

/-- What an engine is asked to do. -/
inductive Call where
  /-- To log in at the registry. -/
  | login (credentials : Credentials)
  /-- To build an image in a directory. -/
  | build (image : Image) (directory : Path)
  /-- To push an image that was built. -/
  | push (image : Image)
  deriving DecidableEq

/-- A process that was started. -/
structure Launch where
  /-- Its arguments. -/
  arguments : List String
  /-- The directory in which it runs. -/
  directory : FileTree.Location
  /-- What it read from its input, if it read that at all. -/
  input : Option String
  deriving DecidableEq

end JobImages.Engine
