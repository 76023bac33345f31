import JobImages.Error
import JobImages.Image
import JobImages.Json.Printer
import JobImages.Json.Reader

/-!
# Job metadata

What a job's author wrote about it: a JSON object of which only the name is looked at.  The rest is
passed on in its order, with the job's image added.

## Main definitions

* `Metadata` — the members of the object;
* `Metadata.read` — metadata from the text of a file;
* `Metadata.name`, `Metadata.withImage` — the job's name, and the object with its image;
* `Metadata.printBatch` — some jobs' metadata as one text.
-/

namespace JobImages

/-- The metadata of a job. -/
structure Metadata where
  /-- The members of the object, in order. -/
  members : Json.Members

namespace Metadata

/-- The key of the job's name. -/
def nameKey : String := "name"

/-- The key under which the job's image is added. -/
def imageKey : String := "image_name"

/-- The metadata in the text of the file at a path: an object whose name is a string. -/
def read (path : Path) (text : String) : Except Error Metadata :=
  match Json.read text with
  | .error fault => .error (.metadataDefective path (.malformed fault))
  | .ok (.object members) =>
    match (Json.Members.get? members nameKey).bind Json.text? with
    | some _ => .ok { members }
    | none => .error (.nameMissing path)
  | .ok value => .error (.metadataDefective path (.notObject value.kind))

/-- The value kept for a key. -/
def get? (metadata : Metadata) (key : String) : Option Json :=
  Json.Members.get? metadata.members key

/-- The job's name. -/
def name (metadata : Metadata) : String :=
  ((metadata.get? nameKey).bind Json.text?).getD ""

/-- The metadata with the job's image, in the place of one that was there. -/
def withImage (metadata : Metadata) (image : Image) : Metadata :=
  { members := Json.Members.put imageKey (.string image.reference) metadata.members }

/-- The object. -/
def toJson (metadata : Metadata) : Json :=
  .object metadata.members

/-- The compact text of the object. -/
def print (metadata : Metadata) : String :=
  metadata.toJson.print

/-- Whether two jobs' metadata say the same, in whatever order. -/
def same (metadata other : Metadata) : Bool :=
  metadata.toJson.same other.toJson

/-- The text of an array of some jobs' metadata. -/
def printBatch (batch : List Metadata) : String :=
  (Json.array (batch.map toJson)).print

end Metadata

end JobImages
