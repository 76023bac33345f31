import JobImages.Path

/-!
# Job directories

A job is a directory below the jobs root.  It may hold a metadata file, under a name that all jobs
share.
-/

namespace JobImages

/-- A directory that may be a job. -/
structure JobDirectory where
  /-- The directory, in which the job's image is built. -/
  path : Path
  /-- Where its metadata file is, if it has one. -/
  metadataPath : Path
  deriving DecidableEq

namespace JobDirectory

/-- The directory at a path, its metadata file having the given name. -/
def ofPath (path : Path) (fileName : String) : JobDirectory :=
  { path, metadataPath := path.join ⟨fileName⟩ }

/-- Whether two directories have paths with the same components. -/
def alike (job other : JobDirectory) : Bool :=
  job.path.alike other.path && job.metadataPath.alike other.metadataPath

end JobDirectory

end JobImages
