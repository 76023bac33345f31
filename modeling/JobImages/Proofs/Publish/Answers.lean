import JobImages.Proofs.Publish.Law

/-!
# What is seen of publishing

Whatever is seen of a run that publishes is an effect of its own or belongs to the answer of a call.
The effects of an answer stand right behind the call, together and in order, and the answer is the
one that the engine gives after the calls in front.

## Main definitions

* `Publish.Answered` — a trace in which every call is followed by its answer;
* `Publish.IsOwnEffect` — what publishing shows by itself.

## Main results

* `Publish.execute_answered` — the traces of publishing;
* `Publish.Answered.forall_effects`, `Publish.Answered.effects_of_call` — what can be seen in such
  a trace, and what must be.
-/

namespace JobImages.Publish

/-- `Answered engine own earlier trace`: after some calls, each call of a trace is followed by the
effects of its answer, and all others are effects of the run's own. -/
inductive Answered (engine : Engine) (own : Effect → Prop) : List Engine.Call → Trace → Prop where
  | nil (earlier : List Engine.Call) : Answered engine own earlier []
  | step {earlier : List Engine.Call} {step : Step} {rest : Trace} (hquiet : step.call? = none)
      (hrest : Answered engine own earlier rest) :
      Answered engine own earlier (.step step :: rest)
  | effect {earlier : List Engine.Call} {effect : Effect} {rest : Trace} (hown : own effect)
      (hrest : Answered engine own earlier rest) :
      Answered engine own earlier (.effect effect :: rest)
  | call {earlier : List Engine.Call} {asked : Engine.Call} {rest : Trace}
      (hrest : Answered engine own (earlier ++ [asked]) rest) :
      Answered engine own earlier
        (.step (.call asked) :: ((engine.respond earlier asked).effects.map .effect ++ rest))

namespace Answered

variable {engine : Engine} {own : Effect → Prop} {earlier : List Engine.Call} {trace : Trace}

/-- Effects of the run's own in front. -/
theorem effects_append {effects : List Effect} (hown : ∀ effect ∈ effects, own effect)
    (h : Answered engine own earlier trace) :
    Answered engine own earlier (effects.map .effect ++ trace) := by
  induction effects with
  | nil => exact h
  | cons effect rest ih =>
    have hrest : ∀ other ∈ rest, own other := fun other hother =>
      hown other (List.mem_cons_of_mem _ hother)
    exact .effect (hown effect List.mem_cons_self) (ih hrest)

/-- What holds of the run's own effects and of those of the answers to its calls holds of all. -/
theorem forall_effects {P : Effect → Prop} (h : Answered engine own earlier trace)
    (hown : ∀ effect, own effect → P effect)
    (hanswer : ∀ asked ∈ trace.calls, ∀ before,
      ∀ effect ∈ (engine.respond before asked).effects, P effect) :
    ∀ effect ∈ trace.effects, P effect := by
  induction h with
  | nil earlier =>
    intro effect heffect
    cases heffect
  | @step earlier step rest hquiet hrest ih =>
    refine ih fun asked hasked => hanswer asked ?_
    rwa [Trace.calls, Trace.steps_cons_step, List.filterMap_cons_none hquiet]
  | effect hown' hrest ih =>
    intro other hother
    rcases List.mem_cons.1 hother with rfl | hother
    · exact hown other hown'
    · exact ih hanswer other hother
  | @call earlier asked rest hrest ih =>
    have hcalls : Trace.calls (.step (.call asked) ::
        ((engine.respond earlier asked).effects.map .effect ++ rest)) =
          asked :: Trace.calls rest := by
      simp [Trace.calls, Step.call?]
    rw [hcalls] at hanswer
    intro effect heffect
    rw [Trace.effects_cons_step, Trace.effects_append, Trace.effects_map_effect] at heffect
    rcases List.mem_append.1 heffect with heffect | heffect
    · exact hanswer asked List.mem_cons_self earlier effect heffect
    · exact ih (fun other hother => hanswer other (List.mem_cons_of_mem _ hother)) effect heffect

/-- The effects of the answer to a call are seen. -/
theorem effects_of_call (h : Answered engine own earlier trace) :
    ∀ {before after : List Engine.Call} {asked : Engine.Call},
      trace.calls = before ++ asked :: after →
        ∀ effect ∈ (engine.respond (earlier ++ before) asked).effects,
          effect ∈ trace.effects := by
  -- Each call of the trace is peeled off and joins those in front.
  induction h with
  | nil earlier =>
    intro before after asked hcalls
    simp [Trace.calls] at hcalls
  | @step earlier step rest hquiet hrest ih =>
    intro before after asked hcalls
    rw [Trace.calls, Trace.steps_cons_step, List.filterMap_cons_none hquiet] at hcalls
    exact ih hcalls
  | effect hown hrest ih =>
    intro before after asked hcalls effect heffect
    exact List.mem_cons_of_mem _ (ih hcalls effect heffect)
  | @call earlier first rest hrest ih =>
    intro before after asked hcalls effect heffect
    rw [Trace.effects_cons_step, Trace.effects_append, Trace.effects_map_effect]
    have hrestCalls : first :: rest.calls = before ++ asked :: after := by
      simpa [Trace.calls, Step.call?] using hcalls
    cases before with
    | nil =>
      obtain ⟨rfl, -⟩ := List.cons.inj hrestCalls
      rw [List.append_nil] at heffect
      exact List.mem_append_left _ heffect
    | cons other before =>
      obtain ⟨rfl, htail⟩ := List.cons.inj hrestCalls
      refine List.mem_append_right _ (ih htail effect ?_)
      simpa using heffect

/-- A run that begins with a call. -/
theorem call_bind {α : Type} {asked : Engine.Call} {next : Unit → Run α}
    (h : Answered engine own (earlier ++ [asked]) (next ()).trace) :
    Answered engine own earlier (engine.call earlier asked >>= next).trace := by
  cases hresult : (engine.call earlier asked).result with
  | ok value =>
    rw [Run.bind_of_ok _ hresult]
    exact .call h
  | error error =>
    rw [Run.bind_of_error _ hresult]
    have hanswer : Answered engine own earlier
        (.step (.call asked) :: ((engine.respond earlier asked).effects.map .effect ++ [])) :=
      .call (.nil (earlier ++ [asked]))
    rwa [List.append_nil] at hanswer

/-- What is worked out of the value of a run shows nothing. -/
theorem bind_pure {α β : Type} {run : Run α} (f : α → β)
    (h : Answered engine own earlier run.trace) :
    Answered engine own earlier (run >>= fun value => pure (f value)).trace := by
  cases hresult : run.result with
  | ok value =>
    rw [Run.bind_of_ok _ hresult]
    simpa using h
  | error error =>
    rw [Run.bind_of_error _ hresult]
    exact h

end Answered

/-! ## The traces of publishing -/

/-- What publishing shows by itself: its two kinds of lines, and remarks. -/
def IsOwnEffect (effect : Effect) : Prop :=
  effect = .printed buildLine ∨ (∃ directory, effect = .printed (skipLine directory)) ∨
    ∃ record, effect = .logged record

section

variable (settings : PublishSettings) (engine : Engine)

theorem ensureLogin_answered {α : Type} (loggedIn : Bool) {earlier : List Engine.Call}
    {next : List Engine.Call → Run α}
    (hnext : ∀ calls, Answered engine IsOwnEffect calls (next calls).trace) :
    Answered engine IsOwnEffect earlier
      (ensureLogin settings engine loggedIn earlier >>= next).trace := by
  cases loggedIn with
  | true => exact hnext earlier
  | false =>
    rw [ensureLogin_false_bind]
    exact .call_bind (hnext _)

/-- The run over some directories shows its own effects and those of the answers. -/
theorem entries_answered (listing : List Catalog.Entry) :
    ∀ (loggedIn : Bool) (earlier : List Engine.Call),
      Answered engine IsOwnEffect earlier
        (entries settings engine loggedIn earlier listing).trace := by
  induction listing with
  | nil =>
    intro loggedIn earlier
    exact .nil earlier
  | cons entry rest ih =>
    intro loggedIn earlier
    rw [entries, Run.take_bind]
    refine .step rfl ?_
    cases hreading : entry.reading with
    | error error => exact .nil earlier
    | ok reading =>
      cases reading with
      | none => exact .effect (.inr (.inl ⟨_, rfl⟩)) ((ih loggedIn earlier).bind_pure _)
      | some metadata =>
        refine ensureLogin_answered settings engine loggedIn fun calls => ?_
        refine .effect (.inl rfl) (.call_bind (.call_bind ?_))
        refine .effect (.inr (.inr ⟨_, rfl⟩)) ?_
        rw [List.append_assoc]
        exact (ih true _).bind_pure _

/-- The run over a catalog shows its own effects and those of the answers. -/
theorem execute_answered (catalog : Catalog) :
    Answered engine IsOwnEffect [] (execute settings catalog engine).trace := by
  rw [execute, Run.take_bind, Run.emit_bind]
  refine .step rfl (.effects_append ?_ ?_)
  · intro effect heffect
    obtain ⟨record, -, rfl⟩ := List.mem_map.1 heffect
    exact .inr (.inr ⟨record, rfl⟩)
  · cases catalog.listing with
    | ok listing => exact entries_answered settings engine listing false []
    | error error => exact .nil []

end

end JobImages.Publish
