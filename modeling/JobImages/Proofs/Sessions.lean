import JobImages.Run

/-!
# Sessions

Something that remembers is asked one thing after the other, and whoever asks goes on whatever the
answers are.  An answer may depend on all that was asked before it.  Engines and coordinators are
both asked in this way.

## Main definitions

* `session` — the answers, in order.

## Main results

* `getElem?_session` — an answer of a session by its place;
* `take_session`, `session_append` — the parts of a session;
* `flatMap_session` — what is seen of a session whose answers all show what they are asked.
-/

namespace JobImages

variable {α β γ : Type} (answer : List α → α → β)

/-- The answers to some things, asked in order after others. -/
def session : List α → List α → List β
  | _, [] => []
  | earlier, asked :: rest => answer earlier asked :: session (earlier ++ [asked]) rest

theorem length_session (asked : List α) :
    ∀ earlier, (session answer earlier asked).length = asked.length := by
  induction asked with
  | nil => exact fun earlier => rfl
  | cons next rest ih => exact fun earlier => congrArg (· + 1) (ih (earlier ++ [next]))

/-- An answer is given in view of what was asked in front of it. -/
theorem getElem?_session (asked : List α) :
    ∀ (earlier : List α) (i : Nat),
      (session answer earlier asked)[i]? =
        asked[i]?.map fun next => answer (earlier ++ asked.take i) next := by
  induction asked with
  | nil => exact fun earlier i => rfl
  | cons next rest ih =>
    intro earlier i
    cases i with
    | zero => simp [session]
    | succ i => simpa [session] using ih (earlier ++ [next]) i

/-- What a session begins with is the session of what is asked first. -/
theorem take_session (asked : List α) :
    ∀ (earlier : List α) (i : Nat),
      (session answer earlier asked).take i = session answer earlier (asked.take i) := by
  induction asked with
  | nil =>
    intro earlier i
    rw [List.take_nil, session, List.take_nil]
  | cons next rest ih =>
    intro earlier i
    cases i with
    | zero => rfl
    | succ i => exact congrArg (_ :: ·) (ih (earlier ++ [next]) i)

theorem session_append (first : List α) :
    ∀ earlier rest, session answer earlier (first ++ rest) =
      session answer earlier first ++ session answer (earlier ++ first) rest := by
  induction first with
  | nil =>
    intro earlier rest
    rw [List.append_nil]
    rfl
  | cons next others ih =>
    intro earlier rest
    rw [List.cons_append, session, session, ih, List.append_assoc, List.cons_append]
    rfl

/-- What is seen of a session, if what is seen of an answer depends on what was asked alone. -/
theorem flatMap_session {seen : β → List γ} {shown : α → List γ}
    (h : ∀ earlier next, seen (answer earlier next) = shown next) (asked : List α) :
    ∀ earlier, (session answer earlier asked).flatMap seen = asked.flatMap shown := by
  induction asked with
  | nil => exact fun earlier => rfl
  | cons next rest ih =>
    intro earlier
    rw [session, List.flatMap_cons, List.flatMap_cons, h, ih]

end JobImages
