import JobImages.FileTree.Resolve

/-!
# Walks

Where a walk goes on depends on where it is and on how many links it may still follow, and on
nothing else.  So a walk along a way of two parts is a walk along the first and then, with the links
left over, along the second.

A walk is a recursion on its steps that hands over to another one at each link.  A law of walks is
therefore an induction on the links with an induction on the steps in it, and the outer one comes
down to what the law says of `follow`.

## Main definitions

* `FileTree.follow` — how a walk goes on at a link.

## Main results

* `FileTree.walk_append` — the two parts of a way;
* `FileTree.exists_walk_of_append` — a way of two parts comes to a directory between them;
* `FileTree.walk_append_stay` — a step to the directory itself does nothing before another step;
* `FileTree.walk_of_le` — more links to spare make no difference to a walk that comes to an end;
* `FileTree.walk_congr` — a walk sees of a tree only what stands where.
-/

namespace JobImages.FileTree

/-- How a walk that may follow so many links goes on at one. -/
def follow (tree : FileTree) (links : Nat) (place : Location) (target : Path) (rest : List Step) :
    Except SystemError Found :=
  match links with
  | 0 => .error .tooManyLinks
  | links + 1 => walk tree links (startOf target place) (stepsOf target ++ rest)

theorem walk_eq_walkFrom (tree : FileTree) (links : Nat) :
    walk tree links = walkFrom tree (follow tree links) := by
  cases links <;> rfl

/-! ## One step -/

section Step

variable (tree : FileTree) (links : Nat) (place : Location) (rest : List Step)

theorem walk_nil : walk tree links place [] = .ok (.directory place) := by
  rw [walk_eq_walkFrom, walkFrom]

theorem walk_stay : walk tree links place (.stay :: rest) = walk tree links place rest := by
  rw [walk_eq_walkFrom, walkFrom]

theorem walk_up : walk tree links place (.up :: rest) = walk tree links place.dropLast rest := by
  rw [walk_eq_walkFrom, walkFrom]

variable {tree links place rest} {name : Name}

theorem walk_of_tooLong (h : isTooLong name = true) :
    walk tree links place (.enter name :: rest) = .error .nameTooLong := by
  rw [walk_eq_walkFrom, walkFrom, if_pos h]

variable (hname : isTooLong name = false)

include hname

theorem walk_of_vacant (hnode : tree.node? (place ++ [name]) = none) :
    walk tree links place (.enter name :: rest) =
      if rest.isEmpty then .ok (.vacant (place ++ [name])) else .error .noEntry := by
  rw [walk_eq_walkFrom, walkFrom, if_neg (by simp [hname])]
  simp only [hnode]

theorem walk_of_directory (hnode : tree.node? (place ++ [name]) = some .directory) :
    walk tree links place (.enter name :: rest) = walk tree links (place ++ [name]) rest := by
  rw [walk_eq_walkFrom, walkFrom, if_neg (by simp [hname])]
  simp only [hnode]

theorem walk_of_file {content : List UInt8}
    (hnode : tree.node? (place ++ [name]) = some (.file content)) :
    walk tree links place (.enter name :: rest) =
      if rest.isEmpty then .ok (.file (place ++ [name]) content) else .error .notDirectory := by
  rw [walk_eq_walkFrom, walkFrom, if_neg (by simp [hname])]
  simp only [hnode]

theorem walk_of_link {target : Path}
    (hnode : tree.node? (place ++ [name]) = some (.link target)) :
    walk tree links place (.enter name :: rest) = follow tree links place target rest := by
  rw [walk_eq_walkFrom, walkFrom, if_neg (by simp [hname])]
  simp only [hnode]

omit hname in
/-- A walk that enters something goes on in a directory or at a link, or it ends there.  Where it
ends there is no directory, and every further step is refused. -/
theorem walk_enter_cases (tree : FileTree) (links : Nat) (place : Location) (name : Name) :
    (∀ rest,
      walk tree links place (.enter name :: rest) = walk tree links (place ++ [name]) rest) ∨
    (∃ target, ∀ rest,
      walk tree links place (.enter name :: rest) = follow tree links place target rest) ∨
    (∀ found, walk tree links place [.enter name] ≠ .ok (.directory found)) ∧
      ∃ cause, ∀ rest, rest ≠ [] →
        walk tree links place (.enter name :: rest) = .error cause := by
  cases hname : isTooLong name with
  | true =>
    refine .inr (.inr ⟨fun found h => ?_, _, fun rest _ => walk_of_tooLong hname⟩)
    rw [walk_of_tooLong hname] at h
    cases h
  | false =>
    cases hnode : tree.node? (place ++ [name]) with
    | none =>
      refine .inr (.inr ⟨fun found h => ?_, .noEntry, fun rest hrest => ?_⟩)
      · rw [walk_of_vacant hname hnode] at h
        cases h
      · rw [walk_of_vacant hname hnode, if_neg (by simpa using hrest)]
    | some node =>
      cases node with
      | directory => exact .inl fun rest => walk_of_directory hname hnode
      | link target => exact .inr (.inl ⟨target, fun rest => walk_of_link hname hnode⟩)
      | file content =>
        refine .inr (.inr ⟨fun found h => ?_, .notDirectory, fun rest hrest => ?_⟩)
        · rw [walk_of_file hname hnode] at h
          cases h
        · rw [walk_of_file hname hnode, if_neg (by simpa using hrest)]

end Step

/-! ## Ways of two parts -/

section Append

variable {tree : FileTree} {links : Nat}

theorem walk_append_of_follow
    (hfollow : ∀ place target rest reached,
      follow tree links place target rest = .ok (.directory reached) →
        ∃ left ≤ links, ∀ more,
          follow tree links place target (rest ++ more) = walk tree left reached more)
    {steps : List Step} {reached : Location} :
    ∀ {place}, walk tree links place steps = .ok (.directory reached) →
      ∃ left ≤ links, ∀ more,
        walk tree links place (steps ++ more) = walk tree left reached more := by
  induction steps with
  | nil =>
    intro place h
    rw [walk_nil] at h
    cases h
    exact ⟨links, Nat.le_refl links, fun more => rfl⟩
  | cons step rest ih =>
    intro place h
    cases step with
    | stay =>
      rw [walk_stay] at h
      simpa only [List.cons_append, walk_stay] using ih h
    | up =>
      rw [walk_up] at h
      simpa only [List.cons_append, walk_up] using ih h
    | enter name =>
      rcases walk_enter_cases tree links place name with
        hinside | ⟨target, hlink⟩ | ⟨hends, cause, hcause⟩
      · rw [hinside] at h
        simpa only [List.cons_append, hinside] using ih h
      · rw [hlink] at h
        simpa only [List.cons_append, hlink] using hfollow place target rest reached h
      · -- Only a directory or a link lets the walk come to a directory.
        cases rest with
        | nil => exact absurd h (hends reached)
        | cons next rest =>
          rw [hcause _ (List.cons_ne_nil next rest)] at h
          cases h

/-- A walk that leads to a directory goes on from there with the links left over. -/
theorem walk_append {steps : List Step} {reached : Location} :
    ∀ {place}, walk tree links place steps = .ok (.directory reached) →
      ∃ left ≤ links, ∀ more,
        walk tree links place (steps ++ more) = walk tree left reached more := by
  induction links generalizing steps reached with
  | zero =>
    refine walk_append_of_follow fun place target rest reached h => ?_
    cases h
  | succ links ih =>
    refine walk_append_of_follow fun place target rest reached h => ?_
    obtain ⟨left, hleft, hmore⟩ := ih h
    refine ⟨left, Nat.le_succ_of_le hleft, fun more => ?_⟩
    rw [follow, ← List.append_assoc, hmore]

theorem exists_walk_of_append_of_follow {more : List Step} (hmore : more ≠ [])
    (hfollow : ∀ place target rest found,
      follow tree links place target (rest ++ more) = .ok found →
        ∃ reached, follow tree links place target rest = .ok (.directory reached))
    {steps : List Step} {found : Found} :
    ∀ {place}, walk tree links place (steps ++ more) = .ok found →
      ∃ reached, walk tree links place steps = .ok (.directory reached) := by
  induction steps with
  | nil =>
    intro place _
    exact ⟨place, walk_nil tree links place⟩
  | cons step rest ih =>
    intro place h
    rw [List.cons_append] at h
    cases step with
    | stay =>
      rw [walk_stay] at h ⊢
      exact ih h
    | up =>
      rw [walk_up] at h ⊢
      exact ih h
    | enter name =>
      rcases walk_enter_cases tree links place name with
        hinside | ⟨target, hlink⟩ | ⟨-, cause, hcause⟩
      · rw [hinside] at h ⊢
        exact ih h
      · rw [hlink] at h ⊢
        exact hfollow place target rest found h
      · -- There are steps left, so the walk is refused.
        rw [hcause _ (List.append_ne_nil_of_right_ne_nil rest hmore)] at h
        cases h

/-- A walk that does not end after the first part of its way comes to a directory there. -/
theorem exists_walk_of_append {steps more : List Step} (hmore : more ≠ []) {found : Found} :
    ∀ {place}, walk tree links place (steps ++ more) = .ok found →
      ∃ reached, walk tree links place steps = .ok (.directory reached) := by
  induction links generalizing steps found with
  | zero =>
    refine exists_walk_of_append_of_follow hmore fun place target rest found h => ?_
    cases h
  | succ links ih =>
    refine exists_walk_of_append_of_follow hmore fun place target rest found h => ?_
    rw [follow, ← List.append_assoc] at h
    exact ih h

theorem walk_append_stay_of_follow {next : Step} {more : List Step}
    (hfollow : ∀ place target rest,
      follow tree links place target (rest ++ .stay :: next :: more) =
        follow tree links place target (rest ++ next :: more)) (steps : List Step) :
    ∀ place, walk tree links place (steps ++ .stay :: next :: more) =
      walk tree links place (steps ++ next :: more) := by
  induction steps with
  | nil =>
    intro place
    exact walk_stay tree links place _
  | cons step rest ih =>
    intro place
    rw [List.cons_append, List.cons_append]
    cases step with
    | stay => rw [walk_stay, walk_stay, ih]
    | up => rw [walk_up, walk_up, ih]
    | enter name =>
      rcases walk_enter_cases tree links place name with
        hinside | ⟨target, hlink⟩ | ⟨-, cause, hcause⟩
      · rw [hinside, hinside, ih]
      · rw [hlink, hlink, hfollow]
      · rw [hcause _ (by simp), hcause _ (by simp)]

/-- A step to the directory itself does nothing before another step, which needs one as well. -/
theorem walk_append_stay (steps more : List Step) (next : Step) (place : Location) :
    walk tree links place (steps ++ .stay :: next :: more) =
      walk tree links place (steps ++ next :: more) := by
  induction links generalizing steps place with
  | zero => exact walk_append_stay_of_follow (fun _ _ _ => rfl) steps place
  | succ links ih =>
    refine walk_append_stay_of_follow (fun place target rest => ?_) steps place
    rw [follow, follow, ← List.append_assoc, ih, List.append_assoc]

end Append

/-! ## Links to spare -/

section Spare

variable {tree : FileTree} {found : Found}

theorem walkFrom_mono {follow follow' : Location → Path → List Step → Except SystemError Found}
    (hfollow : ∀ {place target rest}, follow place target rest = .ok found →
      follow' place target rest = .ok found) {steps : List Step} :
    ∀ {place}, walkFrom tree follow place steps = .ok found →
      walkFrom tree follow' place steps = .ok found := by
  induction steps with
  | nil => exact fun h => h
  | cons step rest ih =>
    intro place h
    cases step with
    | stay => exact ih h
    | up => exact ih h
    | enter name =>
      unfold walkFrom at h ⊢
      cases hname : isTooLong name with
      | true => simp [hname] at h
      | false =>
        rw [hname, if_neg Bool.false_ne_true] at h
        rw [if_neg Bool.false_ne_true]
        cases hnode : tree.node? (place ++ [name]) with
        | none => simpa [hnode] using h
        | some node =>
          simp only [hnode] at h ⊢
          cases node with
          | directory => exact ih h
          | file content => exact h
          | link target => exact hfollow h

theorem walk_succ {links : Nat} {place : Location} {steps : List Step}
    (h : walk tree links place steps = .ok found) :
    walk tree (links + 1) place steps = .ok found := by
  induction links generalizing place steps with
  | zero => exact walkFrom_mono (fun h => by cases h) h
  | succ links ih => exact walkFrom_mono ih h

/-- A walk that comes to an end comes to the same with more links to spare. -/
theorem walk_of_le {links more : Nat} (hle : links ≤ more) {place : Location} {steps : List Step}
    (h : walk tree links place steps = .ok found) : walk tree more place steps = .ok found := by
  induction hle with
  | refl => exact h
  | step _ ih => exact walk_succ ih

end Spare

/-! ## What a walk sees of a tree -/

section Congr

variable {tree other : FileTree} (hnode : ∀ location, other.node? location = tree.node? location)

include hnode

theorem walkFrom_congr (follow : Location → Path → List Step → Except SystemError Found)
    (steps : List Step) :
    ∀ place, walkFrom other follow place steps = walkFrom tree follow place steps := by
  induction steps with
  | nil => exact fun _ => rfl
  | cons step rest ih =>
    intro place
    cases step with
    | stay => exact ih place
    | up => exact ih place.dropLast
    | enter name => simp only [walkFrom, hnode, ih]

theorem walk_congr (links : Nat) : walk other links = walk tree links := by
  induction links with
  | zero =>
    funext place steps
    exact walkFrom_congr hnode _ steps place
  | succ links ih =>
    funext place steps
    rw [walk, walk, ih]
    exact walkFrom_congr hnode _ steps place

/-- A path leads to the same in trees in which the same stands everywhere. -/
theorem resolveFrom_congr (place : Location) (path : Path) :
    resolveFrom other place path = resolveFrom tree place path := by
  rw [resolveFrom, resolveFrom, walk_congr hnode]

variable (hhome : other.home = tree.home)

include hhome

theorem resolve_congr (path : Path) : resolve other path = resolve tree path := by
  rw [resolve, resolve, hhome, resolveFrom_congr hnode]

theorem resolveDirectory_congr (path : Path) :
    resolveDirectory other path = resolveDirectory tree path := by
  rw [resolveDirectory, resolveDirectory, resolve_congr hnode hhome]

theorem isDirectory_congr (path : Path) : isDirectory other path = isDirectory tree path := by
  rw [isDirectory, isDirectory, resolve_congr hnode hhome]

end Congr

end JobImages.FileTree
