/-!
# Image references

The name under which a job's image is built, pushed and reported: the registry, the team and the
job's own name, always with the same tag.
-/

namespace JobImages

/-- A full reference to a container image. -/
structure Image where
  /-- The reference as an engine takes it. -/
  reference : String
  deriving DecidableEq

namespace Image

/-- The tag of every image. -/
def tag : String := "latest"

/-- The reference of a job's image. -/
def ofJob (registry team name : String) : Image :=
  ⟨registry ++ "/" ++ team ++ "-" ++ name ++ ":" ++ tag⟩

end Image

end JobImages
