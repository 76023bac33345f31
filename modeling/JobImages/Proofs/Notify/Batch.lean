import JobImages.Notify
import JobImages.Proofs.Readings
import JobImages.Proofs.Runs

/-!
# Collecting a batch

The directories of a catalog are read one after the other, each being announced first.  The batch
is complete or there is none: the first error in a directory ends the run, whatever was collected
before it.

## Main definitions

* `Notify.contribution?` — what a directory adds to the batch.

## Main results

* `Notify.result_collect` — the batch of a catalog, or its first error;
* `Notify.steps_entries`, `Notify.output_entries` — the directories up to the first that cannot be
  read are announced and read, in order.
-/

namespace JobImages.Notify

/-- What a directory adds to the batch: its metadata, if it has some, with the job's image. -/
def contribution? (settings : JobSettings) (entry : Catalog.Entry) : Option Metadata :=
  entry.metadata?.map fun metadata => metadata.withImage (settings.image metadata.name)

variable (settings : JobSettings)

/-! ## One directory -/

theorem entries_cons_of_error {entry : Catalog.Entry} {error : Error} (rest : List Catalog.Entry)
    (h : entry.reading = .error error) :
    entries settings (entry :: rest) =
      { trace := [.effect (.printed (readLine entry.directory)), .step (.read entry.directory)]
        result := .error error } := by
  rw [entries, h]
  rfl

theorem entries_cons_of_none {entry : Catalog.Entry} (rest : List Catalog.Entry)
    (h : entry.reading = .ok none) :
    entries settings (entry :: rest) =
      { trace := .effect (.printed (readLine entry.directory)) ::
          .step (.read entry.directory) :: (entries settings rest).trace
        result := (entries settings rest).result } := by
  rw [entries, h]
  rfl

theorem entries_cons_of_some {entry : Catalog.Entry} {metadata : Metadata}
    (rest : List Catalog.Entry) (h : entry.reading = .ok (some metadata)) :
    entries settings (entry :: rest) =
      { trace := .effect (.printed (readLine entry.directory)) ::
          .step (.read entry.directory) ::
          .effect (.logged (collectedRemark metadata (settings.image metadata.name))) ::
          (entries settings rest).trace
        result := (entries settings rest).result.map
          (metadata.withImage (settings.image metadata.name) :: ·) } := by
  rw [entries, h]
  cases hrest : (entries settings rest).result with
  | ok batch => simp [Run.bind_of_ok _ hrest, Except.map]
  | error error => simp [Run.bind_of_error _ hrest, Except.map]

/-! ## All directories -/

/-- The batch of some directories is complete, unless one of them cannot be read. -/
theorem result_entries (listing : List Catalog.Entry) :
    (entries settings listing).result =
      match Catalog.firstFault? listing with
      | none => .ok (listing.filterMap (contribution? settings))
      | some error => .error error := by
  induction listing with
  | nil => rfl
  | cons entry rest ih =>
    cases hreading : entry.reading with
    | error error =>
      rw [entries_cons_of_error settings rest hreading,
        Catalog.firstFault?_cons_of_error rest hreading]
    | ok reading =>
      -- A directory that can be read leaves the first error to the others.
      have hmetadata := Catalog.Entry.metadata?_of_ok hreading
      rw [Catalog.firstFault?_cons_of_ok rest hreading]
      cases reading with
      | none =>
        rw [entries_cons_of_none settings rest hreading, ih]
        simp [contribution?, hmetadata]
      | some metadata =>
        rw [entries_cons_of_some settings rest hreading, ih]
        cases Catalog.firstFault? rest <;> simp [contribution?, hmetadata, Except.map]

/-- The directories up to the first that cannot be read are read, in order. -/
theorem steps_entries (listing : List Catalog.Entry) :
    (entries settings listing).trace.steps =
      (Catalog.reached listing).map fun entry => .read entry.directory := by
  induction listing with
  | nil => rfl
  | cons entry rest ih =>
    cases hreading : entry.reading with
    | error error =>
      rw [entries_cons_of_error settings rest hreading, Catalog.reached_cons_of_error rest hreading]
      rfl
    | ok reading =>
      rw [Catalog.reached_cons_of_ok rest hreading]
      cases reading with
      | none => simp [entries_cons_of_none settings rest hreading, ih]
      | some metadata => simp [entries_cons_of_some settings rest hreading, ih]

/-- Each directory that is read is announced by one line. -/
theorem output_entries (listing : List Catalog.Entry) :
    (entries settings listing).trace.output =
      (Catalog.reached listing).flatMap fun entry =>
        Effect.lineBytes (readLine entry.directory) := by
  induction listing with
  | nil => rfl
  | cons entry rest ih =>
    cases hreading : entry.reading with
    | error error =>
      rw [entries_cons_of_error settings rest hreading, Catalog.reached_cons_of_error rest hreading]
      simp [Trace.output, Effect.output]
    | ok reading =>
      rw [Catalog.reached_cons_of_ok rest hreading, List.flatMap_cons, ← ih]
      cases reading with
      | none => simp [entries_cons_of_none settings rest hreading, Trace.output, Effect.output]
      | some metadata =>
        simp [entries_cons_of_some settings rest hreading, Trace.output, Effect.output]

/-- Collecting sends nothing. -/
theorem requests_entries (listing : List Catalog.Entry) :
    (entries settings listing).trace.requests = [] := by
  induction listing with
  | nil => rfl
  | cons entry rest ih =>
    cases hreading : entry.reading with
    | error error =>
      rw [entries_cons_of_error settings rest hreading]
      rfl
    | ok reading =>
      rw [← ih]
      cases reading with
      | none => rw [entries_cons_of_none settings rest hreading]; rfl
      | some metadata => rw [entries_cons_of_some settings rest hreading]; rfl

/-- The batch of a catalog is complete, unless the catalog has an error somewhere. -/
theorem result_collect (catalog : Catalog) :
    (collect settings catalog).result =
      match catalog.fault? with
      | none => .ok (catalog.listed.filterMap (contribution? settings))
      | some error => .error error := by
  rw [collect]
  cases hlisting : catalog.listing with
  | ok listing =>
    rw [Catalog.fault?_of_ok hlisting, Catalog.listed_of_ok hlisting]
    exact result_entries settings listing
  | error error =>
    rw [Catalog.fault?_of_error hlisting]
    rfl

end JobImages.Notify
