import JobImages.Proofs.Notify.Submission
import JobImages.Proofs.Publish.Accounting

/-!
# Directories without metadata

A directory without a metadata file is no job.  Wherever such directories are put into a listing,
both commands do the same for the others, and end alike.

A run falls into parts, one for each directory that it reaches.  The part of a directory depends on
what was done before it, and a directory without metadata leaves that as it was.  So two runs, with
the inserted directories and without them, have the same parts but for those of the inserted ones,
which read the directory and print a line.

## Main definitions

* `Catalog.Slot`, `Catalog.Insertion` — directories without metadata that are put into a listing;
* `Part`, `Part.Through` — the parts of a run that goes through a listing;
* `GoesThrough` — runs that take the directories of a listing one by one.

## Main results

* `GoesThrough.exists_parts` — the parts of the two runs over a listing;
* `Publish.goesThrough_entries`, `Notify.goesThrough_entries` — what is done about one directory;
* `Catalog.Insertion.directories_without_metadata_inert` — both commands on both catalogs.
-/

namespace JobImages

/-! ## Insertions -/

namespace Catalog

/-- A place in a listing into which directories without metadata are put. -/
inductive Slot where
  /-- A directory that was there. -/
  | original (entry : Entry)
  /-- A directory without a metadata file that was put in. -/
  | inserted (directory : JobDirectory)

namespace Slot

/-- The directory at a place. -/
def entry : Slot → Entry
  | .original entry => entry
  | .inserted directory => { directory, reading := .ok none }

/-- The directory at a place, if it was there. -/
def original? : Slot → Option Entry
  | .original entry => some entry
  | .inserted _ => none

/-- The directories that were there. -/
def originals (slots : List Slot) : List Entry :=
  slots.filterMap original?

/-- All directories, with those that were put in. -/
def entries (slots : List Slot) : List Entry :=
  slots.map entry

@[simp] theorem originals_original_cons (entry : Entry) (rest : List Slot) :
    originals (.original entry :: rest) = entry :: originals rest := rfl

@[simp] theorem originals_inserted_cons (directory : JobDirectory) (rest : List Slot) :
    originals (.inserted directory :: rest) = originals rest := rfl

/-- Directories without metadata can be read. -/
theorem firstFault?_entries (slots : List Slot) :
    firstFault? (entries slots) = firstFault? (originals slots) := by
  induction slots with
  | nil => rfl
  | cons slot rest ih =>
    cases slot with
    | inserted directory =>
      have hread : (inserted directory).entry.reading = .ok none := rfl
      rw [originals_inserted_cons, ← ih]
      exact firstFault?_cons_of_ok (entries rest) hread
    | original entry =>
      show firstFault? (entry :: entries rest) = firstFault? (entry :: originals rest)
      cases hreading : entry.reading with
      | ok reading =>
        rw [firstFault?_cons_of_ok _ hreading, firstFault?_cons_of_ok _ hreading, ih]
      | error error =>
        rw [firstFault?_cons_of_error _ hreading, firstFault?_cons_of_error _ hreading]

/-- What directories without metadata do not give is given by the others alone. -/
theorem filterMap_entries {β : Type} {f : Entry → Option β}
    (h : ∀ directory, f (inserted directory).entry = none) (slots : List Slot) :
    (entries slots).filterMap f = (originals slots).filterMap f := by
  induction slots with
  | nil => rfl
  | cons slot rest ih =>
    cases slot with
    | inserted directory =>
      rw [originals_inserted_cons, ← ih]
      exact List.filterMap_cons_none (h directory)
    | original entry =>
      show (entry :: entries rest).filterMap f = _
      rw [originals_original_cons, List.filterMap_cons, List.filterMap_cons, ih]

theorem filter_entries (p : Entry → Bool) (slots : List Slot) :
    (entries slots).filter p = entries (slots.filter (p ·.entry)) :=
  List.filter_map

theorem filter_originals (p : Entry → Bool) (slots : List Slot) :
    (originals slots).filter p = originals (slots.filter (p ·.entry)) := by
  induction slots with
  | nil => rfl
  | cons slot rest ih =>
    cases slot with
    | inserted directory =>
      rw [originals_inserted_cons, ih, List.filter_cons]
      split <;> rfl
    | original entry =>
      rw [originals_original_cons, List.filter_cons, List.filter_cons, ih]
      show _ = originals (if p entry = true then _ else _)
      split <;> rfl

end Slot

/-- What a catalog remarks, as it is shown. -/
def remarked (catalog : Catalog) : Trace :=
  (catalog.remarks.map Effect.logged).map .effect

@[simp] theorem calls_list_cons (catalog : Catalog) (trace : Trace) :
    Trace.calls (.step .list :: (catalog.remarked ++ trace)) = trace.calls := by
  show Trace.calls (catalog.remarked ++ trace) = _
  rw [Trace.calls_append, remarked, Trace.calls_map_effect, List.nil_append]

@[simp] theorem batches_list_cons (catalog : Catalog) (trace : Trace) :
    Trace.batches (.step .list :: (catalog.remarked ++ trace)) = trace.batches := by
  show Trace.batches (catalog.remarked ++ trace) = _
  rw [Trace.batches_append, remarked, Trace.batches_map_effect, List.nil_append]

/-- A catalog, and directories without metadata that are put into its listing. -/
structure Insertion where
  /-- The places of the listing, unless there is none. -/
  slots : Except Error (List Slot)
  /-- What the catalog remarks without the inserted directories. -/
  remarksBefore : List Log.Record
  /-- What it remarks with them. -/
  remarksAfter : List Log.Record

namespace Insertion

variable (insertion : Insertion)

/-- The catalog without the inserted directories. -/
def before : Catalog :=
  { listing := insertion.slots.map Slot.originals, remarks := insertion.remarksBefore }

/-- The catalog with them. -/
def after : Catalog :=
  { listing := insertion.slots.map Slot.entries, remarks := insertion.remarksAfter }

/-- The places of the listing, none if there is no listing. -/
def places : List Slot :=
  insertion.slots.toOption.getD []

theorem listed_before : insertion.before.listed = Slot.originals insertion.places := by
  rw [listed, before, places]
  cases insertion.slots <;> rfl

theorem listed_after : insertion.after.listed = Slot.entries insertion.places := by
  rw [listed, after, places]
  cases insertion.slots <;> rfl

theorem fault?_after : insertion.after.fault? = insertion.before.fault? := by
  rw [fault?, fault?, after, before]
  cases insertion.slots with
  | ok slots => exact Slot.firstFault?_entries slots
  | error error => rfl

end Insertion

end Catalog

open Catalog (Slot)

/-! ## Parts of a run -/

/-- What a run does about one directory. -/
structure Part where
  /-- The place of the directory. -/
  slot : Slot
  /-- What happens. -/
  trace : Trace

namespace Part

/-- Parts one after the other. -/
def joined (parts : List Part) : Trace :=
  parts.flatMap Part.trace

/-- The parts about directories that were there. -/
def originals (parts : List Part) : List Part :=
  parts.filter fun part => part.slot.original?.isSome

@[simp] theorem joined_cons (part : Part) (rest : List Part) :
    joined (part :: rest) = part.trace ++ joined rest := rfl

@[simp] theorem originals_original_cons (entry : Catalog.Entry) (trace : Trace)
    (rest : List Part) :
    originals (⟨.original entry, trace⟩ :: rest) = ⟨.original entry, trace⟩ :: originals rest := rfl

@[simp] theorem originals_inserted_cons (directory : JobDirectory) (trace : Trace)
    (rest : List Part) : originals (⟨.inserted directory, trace⟩ :: rest) = originals rest := rfl

/-- `Through passing slots parts`: the parts of a run that goes through some places in order, up to
the end or to a directory that was there.  In each part the directory of the place is read, and no
other; the part of an inserted directory is `passing`. -/
inductive Through (passing : JobDirectory → Trace) : List Slot → List Part → Prop where
  /-- The run is through. -/
  | done : Through passing [] []
  /-- The run stops at a directory that was there. -/
  | stop {entry : Catalog.Entry} {trace : Trace} (rest : List Slot)
      (hreads : trace.reads = [entry.directory]) :
      Through passing (.original entry :: rest) [⟨.original entry, trace⟩]
  /-- The run gets past a directory that was there. -/
  | original {entry : Catalog.Entry} {trace : Trace} {rest : List Slot} {parts : List Part}
      (hreads : trace.reads = [entry.directory]) (hrest : Through passing rest parts) :
      Through passing (.original entry :: rest) (⟨.original entry, trace⟩ :: parts)
  /-- The run gets past an inserted directory. -/
  | inserted {rest : List Slot} {parts : List Part} (directory : JobDirectory)
      (hrest : Through passing rest parts) :
      Through passing (.inserted directory :: rest)
        (⟨.inserted directory, passing directory⟩ :: parts)

/-- What is not seen in the parts of inserted directories is seen in the others alone. -/
theorem Through.view_eq {β : Type} {passing : JobDirectory → Trace} {slots : List Slot}
    {parts : List Part} (h : Through passing slots parts) (view : Trace → List β)
    (happend : ∀ s t, view (s ++ t) = view s ++ view t)
    (hpassing : ∀ directory, view (passing directory) = []) :
    view (joined parts) = view (joined (originals parts)) := by
  induction h with
  | done => rfl
  | stop rest hreads => rfl
  | original hreads hrest ih =>
    rw [originals_original_cons, joined_cons, joined_cons, happend, happend, ih]
  | inserted directory hrest ih =>
    rw [originals_inserted_cons, joined_cons, happend, hpassing, List.nil_append, ih]

end Part

/-! ## Runs that go through a listing -/

/-- How a run ended, whatever its value is. -/
def Run.ending {α : Type} (run : Run α) : Except Error Unit :=
  run.result.map fun _ => ()

theorem Run.ending_of_ok {α : Type} {run : Run α} {value : α} (h : run.result = .ok value) :
    run.ending = .ok () := by
  rw [Run.ending, h]
  rfl

theorem Run.ending_of_error {α : Type} {run : Run α} {error : Error}
    (h : run.result = .error error) : run.ending = .error error := by
  rw [Run.ending, h]
  rfl

theorem Run.exists_result_of_ending {α : Type} {run : Run α} (h : run.ending = .ok ()) :
    ∃ value, run.result = .ok value := by
  cases hresult : run.result with
  | ok value => exact ⟨value, rfl⟩
  | error error => cases (Run.ending_of_error hresult).symm.trans h

/-- A value that is worked out of another leaves the ending as it was. -/
theorem Run.ending_eq_of_map {α β : Type} {run : Run α} {other : Run β} {f : β → α}
    (h : run.result = other.result.map f) : run.ending = other.ending := by
  rw [Run.ending, Run.ending, h]
  cases other.result <;> rfl

/-- Runs that take the directories of a listing one by one, each in a state that those before it
left.  `passing` is what they do about a directory without metadata, which leaves the state as it
was. -/
structure GoesThrough {σ α : Type} (passing : JobDirectory → Trace)
    (run : σ → List Catalog.Entry → Run α) : Prop where
  /-- When no directory is left, nothing happens. -/
  nil : ∀ state, (run state []).trace = [] ∧ (run state []).ending = .ok ()
  /-- A directory without metadata is passed. -/
  bare : ∀ state directory rest,
    (run state ((Slot.inserted directory).entry :: rest)).trace =
        passing directory ++ (run state rest).trace ∧
      (run state ((Slot.inserted directory).entry :: rest)).ending = (run state rest).ending
  /-- What is done about a directory does not depend on those behind it.  It is read, and the run
  stops there or goes on with them. -/
  step : ∀ state entry, ∃ trace : Trace, trace.reads = [entry.directory] ∧
    ((∃ error, ∀ rest, (run state (entry :: rest)).trace = trace ∧
        (run state (entry :: rest)).ending = .error error) ∨
      ∃ next, ∀ rest, (run state (entry :: rest)).trace = trace ++ (run next rest).trace ∧
        (run state (entry :: rest)).ending = (run next rest).ending)

/-- The parts of a run with the inserted directories, of which the run without them has those about
the others.  The two end alike, and a run that does not end early gets through all. -/
theorem GoesThrough.exists_parts {σ α : Type} {passing : JobDirectory → Trace}
    {run : σ → List Catalog.Entry → Run α} (h : GoesThrough passing run) (slots : List Slot) :
    ∀ state, ∃ parts, Part.Through passing slots parts ∧
      (run state (Slot.originals slots)).trace = Part.joined (Part.originals parts) ∧
      (run state (Slot.entries slots)).trace = Part.joined parts ∧
      (run state (Slot.entries slots)).ending = (run state (Slot.originals slots)).ending ∧
      ((run state (Slot.entries slots)).ending = .ok () → parts.map Part.slot = slots) := by
  -- Both runs are in one state before each place, whichever that state is.
  induction slots with
  | nil =>
    intro state
    obtain ⟨htrace, -⟩ := h.nil state
    exact ⟨[], .done, htrace, htrace, rfl, fun _ => rfl⟩
  | cons slot rest ih =>
    intro state
    cases slot with
    | inserted directory =>
      -- Only the second run reads the directory, and its state stays as it was.
      obtain ⟨parts, hthrough, hbefore, hafter, hending, hall⟩ := ih state
      obtain ⟨htrace, hbare⟩ := h.bare state directory (Slot.entries rest)
      refine ⟨_, .inserted directory hthrough, hbefore, ?_, hbare.trans hending, fun hok => ?_⟩
      · rw [Part.joined_cons, ← hafter]
        exact htrace
      · exact congrArg (_ :: ·) (hall (hbare.symm.trans hok))
    | original entry =>
      obtain ⟨trace, hreads, ⟨error, hstops⟩ | ⟨next, hgoes⟩⟩ := h.step state entry
      · -- Both runs stop here, whatever is behind.
        obtain ⟨hbefore, hbeforeEnding⟩ := hstops (Slot.originals rest)
        obtain ⟨hafter, hafterEnding⟩ := hstops (Slot.entries rest)
        have hjoined : Part.joined [⟨.original entry, trace⟩] = trace := List.append_nil trace
        refine ⟨_, .stop rest hreads, hbefore.trans hjoined.symm, hafter.trans hjoined.symm,
          hafterEnding.trans hbeforeEnding.symm, fun hok => ?_⟩
        cases hafterEnding.symm.trans hok
      · -- Both go on in the state that the directory leaves.
        obtain ⟨parts, hthrough, hbefore, hafter, hending, hall⟩ := ih next
        obtain ⟨hbeforeTrace, hbeforeEnding⟩ := hgoes (Slot.originals rest)
        obtain ⟨hafterTrace, hafterEnding⟩ := hgoes (Slot.entries rest)
        refine ⟨_, .original hreads hthrough, ?_, ?_, ?_, fun hok => ?_⟩
        · rw [Part.originals_original_cons, Part.joined_cons, ← hbefore]
          exact hbeforeTrace
        · rw [Part.joined_cons, ← hafter]
          exact hafterTrace
        · exact (hafterEnding.trans hending).trans hbeforeEnding.symm
        · exact congrArg (_ :: ·) (hall (hafterEnding.symm.trans hok))

/-! ## Publishing -/

namespace Publish

/-- What publishing does about a directory without metadata. -/
def passing (directory : JobDirectory) : Trace :=
  [.step (.read directory), .effect (.printed (skipLine directory.path))]

section Execute

variable (settings : PublishSettings) (engine : Engine)

theorem entries_cons_of_none {entry : Catalog.Entry} (loggedIn : Bool)
    (earlier : List Engine.Call) (rest : List Catalog.Entry) (h : entry.reading = .ok none) :
    entries settings engine loggedIn earlier (entry :: rest) =
      { trace := passing entry.directory ++ (entries settings engine loggedIn earlier rest).trace
        result := (entries settings engine loggedIn earlier rest).result.map
          (Outcome.skipping entry.directory.path) } := by
  rw [entries, h]
  simp only [Run.take_bind, Run.ofExcept_ok_bind, Run.emit_bind, bind_pure_comp]
  refine Run.ext ?_ ?_
  · simp [passing]
  · simp

/-- Publishing takes the directories one by one; what it carries on is whether it is logged in, and
the calls so far. -/
theorem goesThrough_entries :
    GoesThrough passing fun state : Bool × List Engine.Call =>
      entries settings engine state.1 state.2 where
  nil _ := ⟨rfl, rfl⟩
  bare state directory rest := by
    rw [entries_cons_of_none settings engine state.1 state.2 rest rfl]
    exact ⟨rfl, Run.ending_eq_of_map rfl⟩
  step := by
    rintro ⟨loggedIn, earlier⟩ entry
    cases hreading : entry.reading with
    | error error =>
      refine ⟨[.step (.read entry.directory)], rfl, .inl ⟨error, fun rest => ?_⟩⟩
      rw [entries, hreading]
      exact ⟨rfl, rfl⟩
    | ok reading =>
      cases reading with
      | none =>
        refine ⟨passing entry.directory, rfl, .inr ⟨(loggedIn, earlier), fun rest => ?_⟩⟩
        rw [entries_cons_of_none settings engine loggedIn earlier rest hreading]
        exact ⟨rfl, Run.ending_eq_of_map rfl⟩
      | some metadata =>
        -- After a job the run is logged in, whether or not it was before.
        let job := publishOne settings engine loggedIn earlier entry.directory metadata
        obtain ⟨hreads, ⟨hresult, -⟩ | ⟨⟨error, hresult⟩, -⟩⟩ :=
          publishOne_cases settings engine entry.directory metadata loggedIn earlier
        · refine ⟨.step (.read entry.directory) :: job.trace,
            congrArg (entry.directory :: ·) hreads,
            .inr ⟨(true, earlier ++ job.trace.calls), fun rest => ?_⟩⟩
          rw [entries_cons_of_some settings engine loggedIn earlier rest hreading, Run.take_bind,
            Run.bind_of_ok _ hresult, bind_pure_comp, Run.map_eq]
          exact ⟨rfl, Run.ending_eq_of_map rfl⟩
        · refine ⟨.step (.read entry.directory) :: job.trace,
            congrArg (entry.directory :: ·) hreads, .inl ⟨error, fun rest => ?_⟩⟩
          rw [entries_cons_of_some settings engine loggedIn earlier rest hreading, Run.take_bind,
            Run.bind_of_error _ hresult]
          exact ⟨rfl, rfl⟩

/-- The parts of both runs.  What was listed is remarked on by the catalog. -/
theorem execute_parts (insertion : Catalog.Insertion) :
    let before := execute settings insertion.before engine
    let after := execute settings insertion.after engine
    ∃ parts, Part.Through passing insertion.places parts ∧
      before.trace = .step .list :: (insertion.before.remarked ++
        Part.joined (Part.originals parts)) ∧
      after.trace = .step .list :: (insertion.after.remarked ++ Part.joined parts) ∧
      after.ending = before.ending ∧
      (after.ending = .ok () → parts.map Part.slot = insertion.places) := by
  obtain ⟨slots, remarksBefore, remarksAfter⟩ := insertion
  intro before after
  cases slots with
  | ok slots =>
    have hbefore : before = _ := execute_of_listing_ok settings engine rfl
    have hafter : after = _ := execute_of_listing_ok settings engine rfl
    obtain ⟨parts, hthrough, hbeforeTrace, hafterTrace, hending, hall⟩ :=
      (goesThrough_entries settings engine).exists_parts slots (false, [])
    refine ⟨parts, hthrough, ?_, ?_, ?_, ?_⟩
    · rw [hbefore, ← hbeforeTrace]
      rfl
    · rw [hafter, ← hafterTrace]
      rfl
    · rw [hbefore, hafter]
      exact hending
    · rw [hafter]
      exact hall
  | error error =>
    have hbefore : before = _ := execute_of_listing_error settings engine rfl
    have hafter : after = _ := execute_of_listing_error settings engine rfl
    refine ⟨[], .done, ?_, ?_, ?_, fun _ => rfl⟩
    · rw [hbefore]
      exact congrArg (_ :: ·) (List.append_nil _).symm
    · rw [hafter]
      exact congrArg (_ :: ·) (List.append_nil _).symm
    · rw [hbefore, hafter]
      rfl

variable {settings engine}

theorem skipped_eq_filter_isBare {catalog : Catalog} {outcome : Outcome}
    (h : (execute settings catalog engine).result = .ok outcome) :
    outcome.skipped = (catalog.listed.filter isBare).map (·.directory.path) := by
  obtain ⟨listing, hlisting, hreadable⟩ := Catalog.fault?_eq_none_iff.1 (execute_ok h).1
  rw [skipped_eq_filter_metadata h hlisting, Catalog.listed_of_ok hlisting, filter_isBare hreadable]

/-- Directories without metadata have no image. -/
theorem published_eq {insertion : Catalog.Insertion} {outcome outcome' : Outcome}
    (hbefore : (execute settings insertion.before engine).result = .ok outcome)
    (hafter : (execute settings insertion.after engine).result = .ok outcome') :
    outcome'.published = outcome.published := by
  rw [(execute_ok hbefore).2, (execute_ok hafter).2, insertion.listed_before,
    insertion.listed_after]
  exact Slot.filterMap_entries (fun _ => rfl) insertion.places

end Execute

end Publish

/-! ## Notifying -/

namespace Notify

/-- What notifying does about a directory without metadata. -/
def passing (directory : JobDirectory) : Trace :=
  [.effect (.printed (readLine directory)), .step (.read directory)]

/-- Notifying takes the directories one by one, and carries on nothing. -/
theorem goesThrough_entries (settings : JobSettings) :
    GoesThrough passing fun _ : Unit => entries settings where
  nil _ := ⟨rfl, rfl⟩
  bare _ directory rest := by
    rw [entries_cons_of_none settings rest rfl]
    exact ⟨rfl, rfl⟩
  step := by
    intro _ entry
    cases hreading : entry.reading with
    | error error =>
      refine ⟨passing entry.directory, rfl, .inl ⟨error, fun rest => ?_⟩⟩
      rw [entries_cons_of_error settings rest hreading]
      exact ⟨rfl, rfl⟩
    | ok reading =>
      cases reading with
      | none =>
        refine ⟨passing entry.directory, rfl, .inr ⟨(), fun rest => ?_⟩⟩
        rw [entries_cons_of_none settings rest hreading]
        exact ⟨rfl, rfl⟩
      | some metadata =>
        let remark := collectedRemark metadata (settings.image metadata.name)
        refine ⟨passing entry.directory ++ [.effect (.logged remark)], rfl,
          .inr ⟨(), fun rest => ?_⟩⟩
        rw [entries_cons_of_some settings rest hreading]
        exact ⟨rfl, Run.ending_eq_of_map rfl⟩

/-- What comes behind the gathering: nothing if that met an error, else the delivery. -/
def conclude (coordinator : Coordinator) (fault? : Option Error) (batch : List Metadata) :
    Run Nat :=
  match fault? with
  | some error => .ofExcept (.error error)
  | none => deliver coordinator batch

theorem execute_eq_conclude (settings : NotifySettings) (catalog : Catalog)
    (coordinator : Coordinator) :
    let conclusion := conclude coordinator catalog.fault?
      (catalog.listed.filterMap (contribution? settings.jobs))
    execute settings catalog coordinator =
      { trace := (gather settings catalog).trace ++ conclusion.trace
        result := conclusion.result } := by
  cases hfault : catalog.fault? with
  | some error =>
    rw [execute_of_fault coordinator hfault]
    exact Run.ext (List.append_nil _).symm rfl
  | none =>
    rw [execute_of_no_fault coordinator hfault]
    rfl

/-- Both runs gather in the same parts, and conclude alike. -/
theorem execute_parts (settings : NotifySettings) (coordinator : Coordinator)
    (insertion : Catalog.Insertion) :
    let before := execute settings insertion.before coordinator
    let after := execute settings insertion.after coordinator
    let pause : Trace := (pauseEffects settings.settleDelay).map .effect
    after.result = before.result ∧
      ∃ parts conclusion, Part.Through passing insertion.places parts ∧
        before.trace = pause ++ .step .list :: (insertion.before.remarked ++
          (Part.joined (Part.originals parts) ++ conclusion)) ∧
        after.trace = pause ++ .step .list :: (insertion.after.remarked ++
          (Part.joined parts ++ conclusion)) ∧
        (conclusion = [] ∨ parts.map Part.slot = insertion.places) := by
  intro before after pause
  let batch := (Slot.originals insertion.places).filterMap (contribution? settings.jobs)
  let conclusion := conclude coordinator insertion.before.fault? batch
  have hbefore : before = _ := execute_eq_conclude settings insertion.before coordinator
  have hafter : after = _ := execute_eq_conclude settings insertion.after coordinator
  -- The batch is that of the directories that were there.
  have hbatch : (Slot.entries insertion.places).filterMap (contribution? settings.jobs) = batch :=
    Slot.filterMap_entries (fun _ => rfl) insertion.places
  rw [insertion.listed_before, trace_gather, insertion.listed_before] at hbefore
  rw [insertion.listed_after, insertion.fault?_after, trace_gather, insertion.listed_after,
    hbatch] at hafter
  obtain ⟨parts, hthrough, hbeforeTrace, hafterTrace, hending, hall⟩ :=
    (goesThrough_entries settings.jobs).exists_parts insertion.places ()
  refine ⟨?_, parts, conclusion.trace, hthrough, ?_, ?_, ?_⟩
  · rw [hbefore, hafter]
  · rw [hbefore, hbeforeTrace]
    simp [pause, conclusion, batch, Catalog.remarked]
  · rw [hafter, hafterTrace]
    simp [pause, conclusion, batch, Catalog.remarked]
  · cases hfault : insertion.before.fault? with
    | some error =>
      left
      show (conclude coordinator insertion.before.fault? batch).trace = []
      rw [hfault]
      rfl
    | none =>
      -- All directories can be read, so gathering gets through the listing.
      right
      obtain ⟨listing, hlisting, -⟩ := Catalog.fault?_eq_none_iff.1 hfault
      rw [Catalog.fault?_of_ok hlisting, ← Catalog.listed_of_ok hlisting,
        insertion.listed_before] at hfault
      have hresult := result_entries settings.jobs (Slot.originals insertion.places)
      rw [hfault] at hresult
      exact hall (hending.trans (Run.ending_of_ok hresult))

end Notify

/-! ## Both commands -/

namespace Catalog.Insertion

/-- **Directories without metadata are inert.**  Wherever directories without metadata are put into
a listing, publishing makes the same calls, and ends with the same error or publishes the same
images; the directories that it returns as skipped are those from before with the others in their
places.  Notifying submits the same batches and ends alike.  Both runs go through the listing in the
same parts, but for those of the inserted directories: publishing reads such a directory and prints
that it has no metadata, notifying prints that it is at the directory and reads it. -/
theorem directories_without_metadata_inert (insertion : Insertion) (publishing : PublishSettings)
    (engine : Engine) (notifying : NotifySettings) (coordinator : Coordinator) :
    (let before := Publish.execute publishing insertion.before engine
      let after := Publish.execute publishing insertion.after engine
      after.trace.calls = before.trace.calls ∧
        after.result.map (·.published) = before.result.map (·.published) ∧
        (∀ outcome outcome', before.result = .ok outcome → after.result = .ok outcome' →
          let bare := insertion.places.filter (Publish.isBare ·.entry)
          outcome.skipped = (Slot.originals bare).map (·.directory.path) ∧
            outcome'.skipped = (Slot.entries bare).map (·.directory.path)) ∧
        ∃ parts, Part.Through Publish.passing insertion.places parts ∧
          before.trace = .step .list :: (insertion.before.remarked ++
            Part.joined (Part.originals parts)) ∧
          after.trace = .step .list :: (insertion.after.remarked ++ Part.joined parts) ∧
          (after.ending = .ok () → parts.map Part.slot = insertion.places)) ∧
      let before := Notify.execute notifying insertion.before coordinator
      let after := Notify.execute notifying insertion.after coordinator
      let pause : Trace := (Notify.pauseEffects notifying.settleDelay).map .effect
      after.trace.batches = before.trace.batches ∧
        after.result = before.result ∧
        ∃ parts conclusion, Part.Through Notify.passing insertion.places parts ∧
          before.trace = pause ++ .step .list :: (insertion.before.remarked ++
            (Part.joined (Part.originals parts) ++ conclusion)) ∧
          after.trace = pause ++ .step .list :: (insertion.after.remarked ++
            (Part.joined parts ++ conclusion)) ∧
          (conclusion = [] ∨ parts.map Part.slot = insertion.places) := by
  constructor
  · intro before after
    obtain ⟨parts, hthrough, hbefore, hafter, hending, hall⟩ :=
      Publish.execute_parts publishing engine insertion
    refine ⟨?_, ?_, fun outcome outcome' houtcome houtcome' => ?_,
      parts, hthrough, hbefore, hafter, hall⟩
    · rw [hbefore, hafter, calls_list_cons, calls_list_cons,
        hthrough.view_eq Trace.calls Trace.calls_append fun _ => rfl]
    · cases hresult : before.result with
      | ok outcome =>
        obtain ⟨outcome', hresult'⟩ :=
          Run.exists_result_of_ending (hending.trans (Run.ending_of_ok hresult))
        rw [hresult']
        exact congrArg Except.ok (Publish.published_eq hresult hresult')
      | error error =>
        have hresult' : after.result = .error error :=
          eq_error_of_map_eq_error (hending.trans (Run.ending_of_error hresult))
        rw [hresult']
    · have hskipped := Publish.skipped_eq_filter_isBare houtcome
      have hskipped' := Publish.skipped_eq_filter_isBare houtcome'
      rw [insertion.listed_before, Slot.filter_originals] at hskipped
      rw [insertion.listed_after, Slot.filter_entries] at hskipped'
      exact ⟨hskipped, hskipped'⟩
  · intro before after pause
    obtain ⟨hresult, parts, conclusion, hthrough, hbefore, hafter, hall⟩ :=
      Notify.execute_parts notifying coordinator insertion
    refine ⟨?_, hresult, parts, conclusion, hthrough, hbefore, hafter, hall⟩
    have hparts := hthrough.view_eq Trace.batches Trace.batches_append fun _ => rfl
    simp [before, after, hbefore, hafter, hparts]

end Catalog.Insertion

end JobImages
