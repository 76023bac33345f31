import JobImages.Proofs.FileTree.Walk

/-!
# Where a way ends

Following a way comes to an end in a directory, at a file, or at the first thing on it that makes
the rest of it pointless; or it goes round in circles.  What it comes to has nothing to do with how
many links may be followed.  A walk is the same with a limit: it finds the end if there are links
enough, and runs out of them otherwise.

## Main definitions

* `FileTree.Goal` — what a way can come to;
* `FileTree.EndsAt` — what a way comes to, and how many links are followed on it.

## Main results

* `FileTree.EndsAt.unique` — a way comes to one end;
* `FileTree.walk_of_endsAt`, `FileTree.walk_of_beyond_limit` — what a walk finds;
* `FileTree.endsAt_or_tooManyLinks` — a walk finds an end or runs out of links;
* `FileTree.walk_append_of_endsAt` — how a walk goes on behind a directory.
-/

namespace JobImages.FileTree

/-- What a way can come to. -/
inductive Goal where
  /-- A directory. -/
  | directory (place : Location)
  /-- A file. -/
  | file (location : Location) (content : List UInt8)
  /-- Something that is not there. -/
  | missing
  /-- A file that the way would go on behind. -/
  | blocked
  /-- A name that is too long. -/
  | overlong

/-- Following a way from a directory comes to a goal, after so many links. -/
inductive EndsAt (tree : FileTree) : Location → List Step → Nat → Goal → Prop where
  | arrived (place : Location) : EndsAt tree place [] 0 (.directory place)
  | stay {place : Location} {rest : List Step} {links : Nat} {goal : Goal}
      (hrest : EndsAt tree place rest links goal) : EndsAt tree place (.stay :: rest) links goal
  | up {place : Location} {rest : List Step} {links : Nat} {goal : Goal}
      (hrest : EndsAt tree place.dropLast rest links goal) :
      EndsAt tree place (.up :: rest) links goal
  | overlong {name : Name} (place : Location) (rest : List Step) (hname : isTooLong name = true) :
      EndsAt tree place (.enter name :: rest) 0 .overlong
  | vacant {name : Name} {place : Location} (rest : List Step) (hname : isTooLong name = false)
      (hnode : tree.node? (place ++ [name]) = none) :
      EndsAt tree place (.enter name :: rest) 0 .missing
  | file {name : Name} {place : Location} {content : List UInt8} (hname : isTooLong name = false)
      (hnode : tree.node? (place ++ [name]) = some (.file content)) :
      EndsAt tree place [.enter name] 0 (.file (place ++ [name]) content)
  | behindFile {name : Name} {place : Location} {content : List UInt8} (next : Step)
      (rest : List Step) (hname : isTooLong name = false)
      (hnode : tree.node? (place ++ [name]) = some (.file content)) :
      EndsAt tree place (.enter name :: next :: rest) 0 .blocked
  | directory {name : Name} {place : Location} {rest : List Step} {links : Nat} {goal : Goal}
      (hname : isTooLong name = false) (hnode : tree.node? (place ++ [name]) = some .directory)
      (hrest : EndsAt tree (place ++ [name]) rest links goal) :
      EndsAt tree place (.enter name :: rest) links goal
  | link {name : Name} {place : Location} {target : Path} {rest : List Step} {links : Nat}
      {goal : Goal} (hname : isTooLong name = false)
      (hnode : tree.node? (place ++ [name]) = some (.link target))
      (htarget : EndsAt tree (startOf target place) (stepsOf target ++ rest) links goal) :
      EndsAt tree place (.enter name :: rest) (links + 1) goal

namespace Goal

/-- What a walk finds at a goal. -/
def IsFound : Goal → Except SystemError Found → Prop
  | .directory place, found => found = .ok (.directory place)
  | .file location content, found => found = .ok (.file location content)
  | .missing, found => found = .error .noEntry ∨ ∃ location, found = .ok (.vacant location)
  | .blocked, found => found = .error .notDirectory
  | .overlong, found => found = .error .nameTooLong

end Goal

section

variable {tree : FileTree} {place : Location} {steps : List Step} {links : Nat} {goal : Goal}

/-! ## Walks and ends -/

/-- A walk with links enough finds the end of its way. -/
theorem walk_of_endsAt (h : EndsAt tree place steps links goal) :
    ∀ {limit}, links ≤ limit → goal.IsFound (walk tree limit place steps) := by
  -- Only a link takes one from the limit; every other step of the way is one of the walk.
  induction h with
  | arrived place => exact fun _ => walk_nil tree _ place
  | stay hrest ih =>
    intro limit hlimit
    rw [walk_stay]
    exact ih hlimit
  | up hrest ih =>
    intro limit hlimit
    rw [walk_up]
    exact ih hlimit
  | overlong place rest hname => exact fun _ => walk_of_tooLong hname
  | vacant rest hname hnode =>
    intro limit _
    rw [walk_of_vacant hname hnode]
    split
    · exact .inr ⟨_, rfl⟩
    · exact .inl rfl
  | file hname hnode => exact fun _ => walk_of_file hname hnode
  | behindFile next rest hname hnode => exact fun _ => walk_of_file hname hnode
  | directory hname hnode hrest ih =>
    intro limit hlimit
    rw [walk_of_directory hname hnode]
    exact ih hlimit
  | link hname hnode htarget ih =>
    intro limit hlimit
    obtain ⟨left, rfl⟩ := Nat.exists_eq_add_of_le' (Nat.le_trans (Nat.succ_pos _) hlimit)
    rw [walk_of_link hname hnode]
    exact ih (Nat.le_of_succ_le_succ hlimit)

/-- A walk whose way has more links than it may follow runs out of them. -/
theorem walk_of_beyond_limit (h : EndsAt tree place steps links goal) :
    ∀ {limit}, limit < links → walk tree limit place steps = .error .tooManyLinks := by
  induction h with
  | arrived place => exact fun hlimit => absurd hlimit (Nat.not_lt_zero _)
  | stay hrest ih =>
    intro limit hlimit
    rw [walk_stay, ih hlimit]
  | up hrest ih =>
    intro limit hlimit
    rw [walk_up, ih hlimit]
  | overlong place rest hname => exact fun hlimit => absurd hlimit (Nat.not_lt_zero _)
  | vacant rest hname hnode => exact fun hlimit => absurd hlimit (Nat.not_lt_zero _)
  | file hname hnode => exact fun hlimit => absurd hlimit (Nat.not_lt_zero _)
  | behindFile next rest hname hnode =>
    exact fun hlimit => absurd hlimit (Nat.not_lt_zero _)
  | directory hname hnode hrest ih =>
    intro limit hlimit
    rw [walk_of_directory hname hnode, ih hlimit]
  | link hname hnode htarget ih =>
    intro limit hlimit
    rw [walk_of_link hname hnode]
    cases limit with
    | zero => rfl
    | succ left => exact ih (Nat.lt_of_succ_lt_succ hlimit)

theorem endsAt_or_tooManyLinks_of_follow {limit : Nat}
    (hfollow : ∀ place target rest,
      (∃ links goal, links + 1 ≤ limit ∧
        EndsAt tree (startOf target place) (stepsOf target ++ rest) links goal) ∨
      follow tree limit place target rest = .error .tooManyLinks) (steps : List Step) :
    ∀ place, (∃ links goal, links ≤ limit ∧ EndsAt tree place steps links goal) ∨
      walk tree limit place steps = .error .tooManyLinks := by
  induction steps with
  | nil => exact fun place => .inl ⟨0, .directory place, Nat.zero_le limit, .arrived place⟩
  | cons step rest ih =>
    intro place
    cases step with
    | stay =>
      rw [walk_stay]
      refine (ih place).imp_left ?_
      rintro ⟨links, goal, hlimit, hrest⟩
      exact ⟨links, goal, hlimit, .stay hrest⟩
    | up =>
      rw [walk_up]
      refine (ih place.dropLast).imp_left ?_
      rintro ⟨links, goal, hlimit, hrest⟩
      exact ⟨links, goal, hlimit, .up hrest⟩
    | enter name =>
      cases hname : isTooLong name with
      | true => exact .inl ⟨0, .overlong, Nat.zero_le limit, .overlong place rest hname⟩
      | false =>
        cases hnode : tree.node? (place ++ [name]) with
        | none => exact .inl ⟨0, .missing, Nat.zero_le limit, .vacant rest hname hnode⟩
        | some node =>
          cases node with
          | directory =>
            rw [walk_of_directory hname hnode]
            refine (ih (place ++ [name])).imp_left ?_
            rintro ⟨links, goal, hlimit, hrest⟩
            exact ⟨links, goal, hlimit, .directory hname hnode hrest⟩
          | file content =>
            left
            cases rest with
            | nil => exact ⟨0, _, Nat.zero_le limit, .file hname hnode⟩
            | cons next rest =>
              exact ⟨0, .blocked, Nat.zero_le limit, .behindFile next rest hname hnode⟩
          | link target =>
            rw [walk_of_link hname hnode]
            refine (hfollow place target rest).imp_left ?_
            rintro ⟨links, goal, hlimit, htarget⟩
            exact ⟨links + 1, goal, hlimit, .link hname hnode htarget⟩

/-- A walk has links enough to come to the end of its way, or it runs out of them. -/
theorem endsAt_or_tooManyLinks (tree : FileTree) (limit : Nat) (place : Location)
    (steps : List Step) :
    (∃ links goal, links ≤ limit ∧ EndsAt tree place steps links goal) ∨
      walk tree limit place steps = .error .tooManyLinks := by
  -- A link is followed with one less, and the way behind it can be of any length.
  induction limit generalizing place steps with
  | zero => exact endsAt_or_tooManyLinks_of_follow (fun _ _ _ => .inr rfl) steps place
  | succ limit ih =>
    refine endsAt_or_tooManyLinks_of_follow (fun place target rest => ?_) steps place
    refine (ih (startOf target place) (stepsOf target ++ rest)).imp_left ?_
    rintro ⟨links, goal, hlimit, htarget⟩
    exact ⟨links, goal, Nat.succ_le_succ hlimit, htarget⟩

/-- A walk that comes to a directory has followed the way there. -/
theorem exists_endsAt_of_walk {limit : Nat} {found : Location}
    (h : walk tree limit place steps = .ok (.directory found)) :
    ∃ links ≤ limit, EndsAt tree place steps links (.directory found) := by
  rcases endsAt_or_tooManyLinks tree limit place steps with ⟨links, goal, hlimit, hends⟩ | hlinks
  · refine ⟨links, hlimit, ?_⟩
    have hfound := walk_of_endsAt hends hlimit
    rw [h] at hfound
    cases goal with
    | directory place =>
      cases hfound
      exact hends
    | file location content => cases hfound
    | missing =>
      rcases hfound with hfound | ⟨location, hfound⟩
      · cases hfound
      · cases hfound
    | blocked => cases hfound
    | overlong => cases hfound
  · rw [hlinks] at h
    cases h

/-- Behind a directory a walk goes on from there, with the links that are left. -/
theorem walk_append_of_endsAt (h : EndsAt tree place steps links goal) {reached : Location}
    (hgoal : goal = .directory reached) (more : List Step) :
    ∀ left, walk tree (left + links) place (steps ++ more) = walk tree left reached more := by
  induction h with
  | arrived place =>
    cases hgoal
    exact fun left => rfl
  | stay hrest ih =>
    intro left
    rw [List.cons_append, walk_stay, ih hgoal]
  | up hrest ih =>
    intro left
    rw [List.cons_append, walk_up, ih hgoal]
  | overlong place rest hname => cases hgoal
  | vacant rest hname hnode => cases hgoal
  | file hname hnode => cases hgoal
  | behindFile next rest hname hnode => cases hgoal
  | directory hname hnode hrest ih =>
    intro left
    rw [List.cons_append, walk_of_directory hname hnode, ih hgoal]
  | link hname hnode htarget ih =>
    -- What comes behind the way comes behind the target of the link too.
    intro left
    rw [List.cons_append, walk_of_link hname hnode, ← Nat.add_assoc, follow,
      ← List.append_assoc, ih hgoal]

/-! ## One end -/

theorem Goal.not_isFound_tooManyLinks (goal : Goal) : ¬ goal.IsFound (.error .tooManyLinks) := by
  intro h
  cases goal with
  | missing =>
    rcases h with h | ⟨location, h⟩
    · cases h
    · cases h
  | _ => cases h

theorem Goal.IsFound.unique {goal' : Goal} {found : Except SystemError Found}
    (h : goal.IsFound found) (h' : goal'.IsFound found) : goal' = goal := by
  cases goal <;> cases goal' <;> simp_all [Goal.IsFound, SystemError.noEntry,
    SystemError.notDirectory, SystemError.nameTooLong]

theorem EndsAt.links_le {links' : Nat} {goal' : Goal} (h : EndsAt tree place steps links goal)
    (h' : EndsAt tree place steps links' goal') : links ≤ links' := by
  -- With the links of the second end the walk would find that one, and run out of them as well.
  refine Nat.le_of_not_lt fun hlt => goal'.not_isFound_tooManyLinks ?_
  rw [← walk_of_beyond_limit h hlt]
  exact walk_of_endsAt h' (Nat.le_refl links')

/-- A way comes to one end. -/
theorem EndsAt.unique {links' : Nat} {goal' : Goal} (h : EndsAt tree place steps links goal)
    (h' : EndsAt tree place steps links' goal') : links' = links ∧ goal' = goal := by
  have hlinks : links' = links := Nat.le_antisymm (h'.links_le h) (h.links_le h')
  subst hlinks
  have hlimit := Nat.le_refl links'
  exact ⟨rfl, (walk_of_endsAt h hlimit).unique (walk_of_endsAt h' hlimit)⟩

end

end JobImages.FileTree
