import JobImages.Catalog
import JobImages.Engine.Program

/-!
# Publishing

Every job of a catalog is built and pushed, in order.  The login happens once, right before the
first build.  The first step that fails ends the run; what was pushed stays pushed.

## Main definitions

* `Publish.Outcome` — what was published and what was skipped;
* `Publish.entries` — the run over the directories of a catalog;
* `Publish.execute` — the run over a catalog;
* `Publish.run` — the run over the files of a machine.
-/

namespace JobImages.Publish

/-- What a run achieved. -/
structure Outcome where
  /-- The images that were pushed, in order. -/
  published : List Image
  /-- The directories without metadata, in order. -/
  skipped : List Path
  deriving DecidableEq

namespace Outcome

/-- Nothing was there to do. -/
def nothing : Outcome := { published := [], skipped := [] }

/-- The outcome with an image before the others. -/
def publishing (image : Image) (outcome : Outcome) : Outcome :=
  { outcome with published := image :: outcome.published }

/-- The outcome with a directory before the others. -/
def skipping (directory : Path) (outcome : Outcome) : Outcome :=
  { outcome with skipped := directory :: outcome.skipped }

end Outcome

/-- The line for a directory without metadata. -/
def skipLine (directory : Path) : String :=
  s!"{directory.text} doesn't have metadata_file"

/-- The line before a build. -/
def buildLine : String := "===== build and push image ====="

/-- The remark on an image that was pushed. -/
def publishedRemark (metadata : Metadata) (image : Image) : Log.Record :=
  { source := .publishing
    level := .info
    message := "published job image"
    fields := [("job", Text.quoted metadata.name), ("image", image.reference)] }

/-- Logs in unless that was done, and gives the calls made so far. -/
def ensureLogin (settings : PublishSettings) (engine : Engine) (loggedIn : Bool)
    (earlier : List Engine.Call) : Run (List Engine.Call) :=
  if loggedIn then pure earlier
  else do
    let login := Engine.Call.login settings.credentials
    engine.call earlier login
    pure (earlier ++ [login])

/-- The run over some directories, after the given calls of the engine. -/
def entries (settings : PublishSettings) (engine : Engine) :
    Bool → List Engine.Call → List Catalog.Entry → Run Outcome
  | _, _, [] => pure .nothing
  | loggedIn, earlier, entry :: rest => do
    Run.take (.read entry.directory)
    match ← Run.ofExcept entry.reading with
    | none => do
      Run.emit [.printed (skipLine entry.directory.path)]
      let outcome ← entries settings engine loggedIn earlier rest
      pure (outcome.skipping entry.directory.path)
    | some metadata => do
      let image := settings.jobs.image metadata.name
      let build := Engine.Call.build image entry.directory.path
      let push := Engine.Call.push image
      -- The login waits for the first job, so that a root without jobs needs no registry.
      let earlier ← ensureLogin settings engine loggedIn earlier
      Run.emit [.printed buildLine]
      engine.call earlier build
      engine.call (earlier ++ [build]) push
      Run.emit [.logged (publishedRemark metadata image)]
      let outcome ← entries settings engine true (earlier ++ [build, push]) rest
      pure (outcome.publishing image)

/-- The run over a catalog. -/
def execute (settings : PublishSettings) (catalog : Catalog) (engine : Engine) : Run Outcome := do
  Run.take .list
  Run.emit (catalog.remarks.map .logged)
  let listing ← Run.ofExcept catalog.listing
  entries settings engine false [] listing

/-- The run over the files of a machine, with the engine that the settings name.  The settings are
checked before anything is done. -/
def run (settings : PublishSettings) (machine : Machine) : Run Outcome := do
  Run.ofExcept (settings.check.mapError .settings)
  execute settings (Catalog.ofTree machine.files settings.jobs)
    (Engine.program machine settings.engine)

end JobImages.Publish
