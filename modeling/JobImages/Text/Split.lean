/-!
# Splitting a text at a separator

## Main definitions

* `Text.splitOn` — the pieces between the separators.

## Main results

* `Text.splitOn_append` — the pieces on both sides of a separator are independent of each other.
-/

namespace JobImages.Text

/-- The pieces of a text between the occurrences of a separator. -/
def splitOn (separator : Char) : List Char → List (List Char)
  | [] => [[]]
  | c :: rest =>
    if c = separator then [] :: splitOn separator rest
    else
      match splitOn separator rest with
      | [] => [[c]]
      | piece :: pieces => (c :: piece) :: pieces

theorem splitOn_ne_nil (separator : Char) (text : List Char) : splitOn separator text ≠ [] := by
  cases text with
  | nil => simp [splitOn]
  | cons c rest =>
    by_cases h : c = separator
    · simp [splitOn, h]
    · simp only [splitOn, h, if_false]
      split <;> simp

/-- A text without a separator is one piece. -/
theorem splitOn_of_not_mem {separator : Char} {text : List Char} (h : separator ∉ text) :
    splitOn separator text = [text] := by
  induction text with
  | nil => rfl
  | cons c rest ih =>
    rw [List.mem_cons, not_or] at h
    rw [splitOn, if_neg (Ne.symm h.1), ih h.2]

/-- A text is split at a separator by splitting what is on both sides. -/
theorem splitOn_append (separator : Char) (first second : List Char) :
    splitOn separator (first ++ separator :: second) =
      splitOn separator first ++ splitOn separator second := by
  induction first with
  | nil => simp [splitOn]
  | cons c rest ih =>
    by_cases h : c = separator
    · simp only [List.cons_append, splitOn, h, if_true, ih]
    · obtain ⟨piece, pieces, hrest⟩ := List.exists_cons_of_ne_nil (splitOn_ne_nil separator rest)
      simp only [List.cons_append, splitOn, h, if_false, ih, hrest]

end JobImages.Text
