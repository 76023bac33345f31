import JobImages.Proofs.Notify.Batch
import JobImages.Proofs.Publish.Outcome

/-!
# Publishing and notifying agree

Both commands go through the same catalog, each with a loop of its own.  What the coordinator is
told is what was pushed: the batch has one entry for each image, in the order of the pushes, and
each entry names its image, also where the author's object had a member of that key already.

## Main results

* `Agreement.imageNames_batch` — the images that a batch names;
* `Agreement.publish_agrees_with_collect` — the two commands on one catalog.
-/

namespace JobImages.Agreement

open Metadata (imageKey)

/-- The image that was put into metadata is what stands under its key. -/
theorem get?_imageKey_withImage (metadata : Metadata) (image : Image) :
    (metadata.withImage image).get? imageKey = some (.string image.reference) :=
  Json.Members.get?_put_self _ _ _

/-- The images that a batch names are those that publishing the same directories pushes. -/
theorem imageNames_batch (settings : JobSettings) (listing : List Catalog.Entry) :
    (listing.filterMap (Notify.contribution? settings)).map (·.get? imageKey) =
      (Publish.Outcome.ofListing settings listing).published.map
        fun image => some (.string image.reference) := by
  -- Both lists go through the same directories, so it is enough to compare one directory.
  rw [Publish.Outcome.ofListing, List.map_filterMap, List.map_filterMap]
  congr 1
  funext entry
  cases h : entry.metadata? with
  | none => simp [Notify.contribution?, Publish.image?, h]
  | some metadata =>
    simp [Notify.contribution?, Publish.image?, h, get?_imageKey_withImage]

/-- A directory that adds nothing to a batch is one without metadata. -/
theorem isNone_contribution? (settings : JobSettings) (entry : Catalog.Entry) :
    (Notify.contribution? settings entry).isNone = entry.metadata?.isNone :=
  Option.isNone_map

/-- A run in which no call fails ends early only for an error of the catalog. -/
theorem fault?_of_execute_error {settings : PublishSettings} {catalog : Catalog} {engine : Engine}
    {error : Error}
    (hcalls : ∀ before asked after,
      (Publish.execute settings catalog engine).trace.calls = before ++ asked :: after →
        (engine.respond before asked).result = .ok ())
    (h : (Publish.execute settings catalog engine).result = .error error) :
    catalog.fault? = some error := by
  rcases Publish.execute_error h with hfault | ⟨before, asked, hlast, hfails⟩
  · exact hfault
  · rw [hcalls before asked [] hlast] at hfails
    cases hfails

/-- **Publishing and notifying agree** on every catalog.  If publishing succeeds, so does the
collection: entry by entry it names the images that were pushed, and the directories that were
skipped are those that add nothing to it.  If the collection fails, so does publishing; and if no
call of the engine fails, the two fail together, with the same error. -/
theorem publish_agrees_with_collect (settings : PublishSettings) (catalog : Catalog)
    (engine : Engine) :
    let run := Publish.execute settings catalog engine
    let collected := (Notify.collect settings.jobs catalog).result
    (∀ outcome, run.result = .ok outcome →
      ∃ batch, collected = .ok batch ∧
        batch.length = outcome.published.length ∧
        batch.map (·.get? imageKey) =
          outcome.published.map (fun image => some (.string image.reference)) ∧
        batch = catalog.listed.filterMap (Notify.contribution? settings.jobs) ∧
        outcome.skipped =
          (catalog.listed.filter fun entry =>
            (Notify.contribution? settings.jobs entry).isNone).map (·.directory.path)) ∧
    (∀ error, collected = .error error → ∃ cause, run.result = .error cause) ∧
    ((∀ before asked after, run.trace.calls = before ++ asked :: after →
        (engine.respond before asked).result = .ok ()) →
      ∀ error, run.result = .error error ↔ collected = .error error) := by
  intro run collected
  have hcollected := Notify.result_collect settings.jobs catalog
  refine ⟨?_, ?_, ?_⟩
  · intro outcome h
    obtain ⟨hfault, rfl⟩ := Publish.execute_ok h
    have hnames := imageNames_batch settings.jobs catalog.listed
    rw [hfault] at hcollected
    refine ⟨_, hcollected, ?_, hnames, rfl, ?_⟩
    · simpa using congrArg List.length hnames
    · simp only [isNone_contribution?]
      rfl
  · intro error h
    cases hresult : run.result with
    | ok outcome =>
      obtain ⟨hfault, -⟩ := Publish.execute_ok hresult
      rw [hfault] at hcollected
      cases h.symm.trans hcollected
    | error cause => exact ⟨cause, rfl⟩
  · intro hcalls error
    constructor
    · intro h
      rw [fault?_of_execute_error hcalls h] at hcollected
      exact hcollected
    · intro h
      -- Publishing fails as well, and as no call does, it fails for the catalog's first error.
      cases hresult : run.result with
      | ok outcome =>
        obtain ⟨hfault, -⟩ := Publish.execute_ok hresult
        rw [hfault] at hcollected
        cases h.symm.trans hcollected
      | error cause =>
        rw [fault?_of_execute_error hcalls hresult] at hcollected
        cases h.symm.trans hcollected
        rfl

end JobImages.Agreement
