import JobImages.Catalog
import JobImages.Http.Client

/-!
# Notifying

The metadata of every job of a catalog, each with its image, is submitted to the coordinator in one
batch.  It is collected before anything is submitted, so that an error in any directory leaves the
coordinator as it was.

## Main definitions

* `Notify.entries`, `Notify.collect` — the batch;
* `Notify.execute` — the run over a catalog;
* `Notify.run` — the run over a tree of files and a network.
-/

namespace JobImages.Notify

/-- The line for a directory that is read. -/
def readLine (job : JobDirectory) : String :=
  s!"Processing {job.metadataPath.text}"

/-- The remark on metadata that was collected. -/
def collectedRemark (metadata : Metadata) (image : Image) : Log.Record :=
  { source := .notifying
    level := .debug
    message := "collected job metadata"
    fields := [("job", Text.quoted metadata.name), ("image", image.reference)] }

/-- The batch of some directories. -/
def entries (settings : JobSettings) : List Catalog.Entry → Run (List Metadata)
  | [] => pure []
  | entry :: rest => do
    Run.emit [.printed (readLine entry.directory)]
    Run.take (.read entry.directory)
    match ← Run.ofExcept entry.reading with
    | none => entries settings rest
    | some metadata => do
      let image := settings.image metadata.name
      Run.emit [.logged (collectedRemark metadata image)]
      let batch ← entries settings rest
      pure (metadata.withImage image :: batch)

/-- The batch of a catalog: the metadata of every job with its image, in order. -/
def collect (settings : JobSettings) (catalog : Catalog) : Run (List Metadata) := do
  Run.take .list
  Run.emit (catalog.remarks.map .logged)
  let listing ← Run.ofExcept catalog.listing
  entries settings listing

/-- A time in a remark: in seconds from one second on, else in milliseconds. -/
def delayText (milliseconds : Nat) : String :=
  let seconds := milliseconds / 1000
  let rest := milliseconds % 1000
  if seconds = 0 then s!"{rest}ms"
  else if rest = 0 then s!"{seconds}s"
  else
    let digits := (toString (1000 + rest)).toList.drop 1
    let shown := (digits.reverse.dropWhile (· == '0')).reverse
    s!"{seconds}.{String.ofList shown}s"

/-- The remark before a pause. -/
def waitingRemark (milliseconds : Nat) : Log.Record :=
  { source := .notifying
    level := .debug
    message := "waiting before scanning jobs"
    fields := [("delay", delayText milliseconds)] }

/-- The pause before the jobs are listed, if there is to be one. -/
def settle (milliseconds : Nat) : Run Unit :=
  if milliseconds = 0 then pure ()
  else Run.emit [.logged (waitingRemark milliseconds), .waited milliseconds]

/-- The remark on a batch that was accepted. -/
def submittedRemark (count : Nat) : Log.Record :=
  { source := .notifying
    level := .info
    message := "submitted job metadata"
    fields := [("count", toString count)] }

/-- The run over a catalog; its value is the number of jobs in the batch. -/
def execute (settings : NotifySettings) (catalog : Catalog) (coordinator : Coordinator) :
    Run Nat := do
  -- Everything is read before anything is submitted.
  settle settings.settleDelay
  let batch ← collect settings.jobs catalog
  coordinator.submit [] batch
  Run.emit [.logged (submittedRemark batch.length)]
  pure batch.length

/-- The run over a tree of files, with the coordinator that the settings name.  The settings are
checked, and a client is made, before anything is done. -/
def run (settings : NotifySettings) (files : FileTree) (network : Network)
    (library : Http.Library := .plain) : Run Nat := do
  let timeout := settings.coordinator.timeoutSeconds
  Run.ofExcept (settings.check.mapError .settings)
  Run.ofExcept (Http.created timeout library)
  execute settings (Catalog.ofTree files settings.jobs)
    (Http.coordinator network settings.coordinator.uri timeout library)

end JobImages.Notify
