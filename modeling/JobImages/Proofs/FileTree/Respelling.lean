import JobImages.Proofs.Settings.FileName

/-!
# Paths with other separators

Separators can be written after a path, and a run of them can be longer or shorter.  Each separator
too many is one more step to the directory in which the walk is anyway.  So all these spellings of a
path have the same components and show the same way, and so do the paths below them: only at the end
of a path, and for the length that a path can have, do separators make a difference.

## Main definitions

* `Respelled` — a text with other separators;
* `Path.SameWay` — two paths that show the same way, whatever is written behind them;
* `Path.isTooLong` — a path that is longer than paths can be;
* `Path.withSeparators` — a path with separators behind it.

## Main results

* `Path.sameWay_of_respelled` — a path with other separators shows the same way;
* `Path.SameWay.join` — so does what is below it;
* `Path.SameWay.resolveDirectory_eq`, `Path.SameWay.resolve_join_eq` — the directory to which two
  such paths lead, and all that is found below it.
-/

namespace JobImages

/-- A text with other separators: some are appended, or a run of them is replaced by another. -/
inductive Respelled : List Char → List Char → Prop where
  | append (text : List Char) (n : Nat) : Respelled text (text ++ List.replicate n '/')
  | replace (before after : List Char) (m n : Nat) :
      Respelled (before ++ List.replicate (m + 1) '/' ++ after)
        (before ++ List.replicate (n + 1) '/' ++ after)
  | trans {text middle other : List Char} (first : Respelled text middle)
      (second : Respelled middle other) : Respelled text other

/-- The pieces on both sides of a run of separators, and the empty ones in it. -/
theorem Text.splitOn_replicate (separator : Char) (before after : List Char) (n : Nat) :
    splitOn separator (before ++ List.replicate (n + 1) separator ++ after) =
      splitOn separator before ++ List.replicate n [] ++ splitOn separator after := by
  induction n generalizing before with
  | zero => simp [splitOn_append]
  | succ n ih =>
    have hempty := ih []
    rw [List.nil_append] at hempty
    rw [List.replicate_succ, List.append_assoc, List.cons_append, splitOn_append, hempty]
    simp [splitOn, List.replicate_succ]

/-! ## Walks -/

namespace FileTree

variable {tree : FileTree} {links : Nat}

theorem walk_append_stays (steps : List Step) (n : Nat) {more : List Step} (hmore : more ≠ [])
    (place : Location) :
    walk tree links place (steps ++ (List.replicate n .stay ++ more)) =
      walk tree links place (steps ++ more) := by
  induction n with
  | zero => rfl
  | succ n ih =>
    obtain ⟨next, rest, hnext⟩ :=
      List.exists_cons_of_ne_nil (List.append_ne_nil_of_right_ne_nil (List.replicate n .stay) hmore)
    rw [← ih, List.replicate_succ, List.cons_append, hnext, walk_append_stay]

/-- A way below a path is walked as the way of that one and then on. -/
theorem walk_join_append {root below : Path} (hroot : root.text ≠ "")
    (hbelow : below.isAbsolute = false) (place : Location) (more : List Step) :
    walk tree links place (stepsOf (root.join below) ++ more) =
      walk tree links place (stepsOf root ++ (stepsOf below ++ more)) := by
  obtain ⟨pieces, ending, -, hending, hpieces, hjoin⟩ :=
    Path.exists_pieces_join hroot hbelow
  have hsteps : stepsOf (root.join below) = pieces.map Step.ofPiece ++ stepsOf below := by
    rw [stepsOf, hjoin, List.map_append, stepsOf]
  have hroot : stepsOf root = pieces.map Step.ofPiece ++ ending.map Step.ofPiece := by
    rw [stepsOf, hpieces, List.map_append]
  have hmore : stepsOf below ++ more ≠ [] :=
    List.append_ne_nil_of_left_ne_nil (stepsOf_ne_nil below) more
  rw [hsteps, hroot, List.append_assoc, List.append_assoc]
  -- Joining drops the empty piece at the end of the root, which is one step that does nothing.
  rcases hending with rfl | rfl
  · rfl
  · exact (walk_append_stays _ 1 hmore place).symm

/-- The directory that was found. -/
def directoryOf : Except SystemError Found → Except SystemError Location
  | .ok (.directory place) => .ok place
  | .ok (.file _ _) => .error .notDirectory
  | .ok (.vacant _) => .error .noEntry
  | .error cause => .error cause

theorem resolveDirectory_eq (path : Path) :
    resolveDirectory tree path = directoryOf (resolve tree path) := by
  rw [resolveDirectory]
  cases resolve tree path with
  | error cause => rfl
  | ok found => cases found <;> rfl

theorem directoryOf_walk_append_stay_of_follow
    (hfollow : ∀ place target rest,
      directoryOf (follow tree links place target (rest ++ [.stay])) =
        directoryOf (follow tree links place target rest)) (steps : List Step) :
    ∀ place, directoryOf (walk tree links place (steps ++ [.stay])) =
      directoryOf (walk tree links place steps) := by
  induction steps with
  | nil =>
    intro place
    rw [List.nil_append, walk_stay]
  | cons step rest ih =>
    intro place
    rw [List.cons_append]
    cases step with
    | stay => rw [walk_stay, walk_stay, ih]
    | up => rw [walk_up, walk_up, ih]
    | enter name =>
      cases hname : isTooLong name with
      | true => rw [walk_of_tooLong hname, walk_of_tooLong hname]
      | false =>
        cases hnode : tree.node? (place ++ [name]) with
        | none =>
          -- Where nothing stands there is no directory, whether one is asked for or not.
          rw [walk_of_vacant hname hnode, walk_of_vacant hname hnode]
          cases rest <;> rfl
        | some node =>
          cases node with
          | directory => rw [walk_of_directory hname hnode, walk_of_directory hname hnode, ih]
          | file content =>
            rw [walk_of_file hname hnode, walk_of_file hname hnode]
            cases rest <;> rfl
          | link target => rw [walk_of_link hname hnode, walk_of_link hname hnode, hfollow]

/-- To look for a directory is to ask for one. -/
theorem directoryOf_walk_append_stay (steps : List Step) (place : Location) :
    directoryOf (walk tree links place (steps ++ [.stay])) =
      directoryOf (walk tree links place steps) := by
  induction links generalizing steps place with
  | zero => exact directoryOf_walk_append_stay_of_follow (fun _ _ _ => rfl) steps place
  | succ links ih =>
    refine directoryOf_walk_append_stay_of_follow (fun place target rest => ?_) steps place
    rw [follow, follow, ← List.append_assoc, ih]

end FileTree

/-! ## Paths -/

namespace Path

open FileTree (stepsOf walk resolve resolveFrom resolveDirectory checkPath pathLimit)

/-- Whether a path is longer than paths can be. -/
def isTooLong (path : Path) : Bool :=
  pathLimit ≤ path.text.utf8ByteSize

theorem isTooLong_eq_true_iff {path : Path} :
    path.isTooLong = true ↔ pathLimit ≤ path.text.utf8ByteSize := by
  rw [isTooLong, decide_eq_true_eq]

theorem isTooLong_eq_false_iff {path : Path} :
    path.isTooLong = false ↔ path.text.utf8ByteSize < pathLimit := by
  rw [isTooLong, decide_eq_false_iff_not, Nat.not_le]

/-- A path that can be given to the system is refused only for its length. -/
theorem checkPath_eq {path : Path} (hne : path.text ≠ "") (hnul : '\x00' ∉ path.text.toList) :
    checkPath path = if path.isTooLong then .error .nameTooLong else .ok () := by
  have hempty : path.text.isEmpty = false := by simpa using hne
  simp [checkPath, hempty, hnul, isTooLong]

/-- A path with separators behind it. -/
def withSeparators (path : Path) (n : Nat) : Path :=
  ⟨path.text ++ String.ofList (List.replicate n '/')⟩

theorem respelled_withSeparators (path : Path) (n : Nat) :
    Respelled path.text.toList (path.withSeparators n).text.toList := by
  rw [withSeparators, String.toList_append, String.toList_ofList]
  exact .append _ n

theorem utf8ByteSize_withSeparators (path : Path) (n : Nat) :
    (path.withSeparators n).text.utf8ByteSize = path.text.utf8ByteSize + n := by
  rw [withSeparators, String.utf8ByteSize_append]
  congr 1
  induction n with
  | zero => rfl
  | succ n ih =>
    rw [List.replicate_succ, String.ofList_cons, String.utf8ByteSize_append, ih, Nat.add_comm]
    rfl

/-- Behind such a path nothing more is written before what is below. -/
theorem withSeparators_join (path : Path) {n : Nat} (hn : n ≠ 0) {below : Path}
    (hbelow : below.isAbsolute = false) :
    (path.withSeparators n).join below = ⟨(path.withSeparators n).text ++ below.text⟩ := by
  obtain ⟨m, rfl⟩ := Nat.exists_eq_succ_of_ne_zero hn
  have hlast : (path.withSeparators (m + 1)).text.toList.getLast? = some '/' := by
    simp [withSeparators, List.replicate_succ']
  simp [join, hbelow, hlast]

/-- Two paths have the same components and lead from every place to the same, as long as something
is written behind them. -/
structure SameWay (path other : Path) : Prop where
  ne_empty : path.text ≠ ""
  other_ne_empty : other.text ≠ ""
  isAbsolute_eq : other.isAbsolute = path.isAbsolute
  nul_iff : '\x00' ∈ other.text.toList ↔ '\x00' ∈ path.text.toList
  components_eq : other.components = path.components
  walk_eq : ∀ (tree : FileTree) links place more, more ≠ [] →
    walk tree links place (stepsOf other ++ more) = walk tree links place (stepsOf path ++ more)

/-! ### Other separators -/

theorem sameWay_of_pieces {path other : Path} (first second : List (List Char)) (m n : Nat)
    (hfirst : first ≠ []) (hne : path.text ≠ "") (hother : other.text ≠ "")
    (habsolute : other.isAbsolute = path.isAbsolute)
    (hnul : '\x00' ∈ other.text.toList ↔ '\x00' ∈ path.text.toList)
    (hpath : Text.splitOn '/' path.text.toList = first ++ List.replicate m [] ++ second)
    (hpieces : Text.splitOn '/' other.text.toList = first ++ List.replicate n [] ++ second) :
    SameWay path other := by
  obtain ⟨piece, pieces, rfl⟩ := List.exists_cons_of_ne_nil hfirst
  refine ⟨hne, hother, habsolute, hnul, ?_, fun tree links place more hmore => ?_⟩
  · have hlead : other.lead = path.lead := by simp [lead, hpath, hpieces, habsolute]
    have hquiet (count : Nat) : (List.replicate count ([] : List Char)).flatMap ofPiece = [] := by
      simp [List.flatMap_eq_nil_iff, ofPiece]
    simp only [components_eq, hlead, hpath, hpieces, List.flatMap_append, hquiet]
  · -- The empty pieces are steps that do nothing, as there is always another one after them.
    have hsteps : second.map FileTree.Step.ofPiece ++ more ≠ [] :=
      List.append_ne_nil_of_right_ne_nil _ hmore
    simp only [stepsOf, hpath, hpieces, List.map_append, List.map_replicate, List.append_assoc]
    rw [show FileTree.Step.ofPiece [] = .stay from rfl, FileTree.walk_append_stays _ _ hsteps,
      FileTree.walk_append_stays _ _ hsteps]

theorem SameWay.refl {path : Path} (h : path.text ≠ "") : SameWay path path :=
  ⟨h, h, rfl, Iff.rfl, rfl, fun _ _ _ _ _ => rfl⟩

theorem SameWay.trans {path middle other : Path} (h : SameWay path middle)
    (h' : SameWay middle other) : SameWay path other :=
  ⟨h.ne_empty, h'.other_ne_empty, h'.isAbsolute_eq.trans h.isAbsolute_eq,
    h'.nul_iff.trans h.nul_iff, h'.components_eq.trans h.components_eq,
    fun tree links place more hmore =>
      (h'.walk_eq tree links place more hmore).trans (h.walk_eq tree links place more hmore)⟩

theorem sameWay_ofList_of_respelled {text other : List Char} (h : Respelled text other)
    (hne : text ≠ []) : SameWay ⟨String.ofList text⟩ ⟨String.ofList other⟩ := by
  induction h with
  | append text n =>
    -- The pieces of nothing are one empty piece, so that as many are appended as separators.
    cases n with
    | zero =>
      rw [List.replicate_zero, List.append_nil]
      exact .refl (by simpa using hne)
    | succ n =>
      obtain ⟨c, rest, rfl⟩ := List.exists_cons_of_ne_nil hne
      have hpieces := Text.splitOn_replicate '/' (c :: rest) [] n
      refine sameWay_of_pieces (Text.splitOn '/' (c :: rest)) [] 0 (n + 1)
        (Text.splitOn_ne_nil '/' _) (by simp) (by simp) (by simp [isAbsolute]) (by simp) (by simp)
        ?_
      rw [List.append_nil] at hpieces
      rw [String.toList_ofList, hpieces]
      simp [Text.splitOn, List.replicate_succ']
  | replace before after m n =>
    refine sameWay_of_pieces (Text.splitOn '/' before) (Text.splitOn '/' after) m n
      (Text.splitOn_ne_nil '/' _) (by simp) (by simp) ?_ (by simp) ?_ ?_
    · cases before <;> simp [isAbsolute, List.replicate_succ]
    · rw [String.toList_ofList, Text.splitOn_replicate]
    · rw [String.toList_ofList, Text.splitOn_replicate]
  | trans first second ih ih' =>
    have hmiddle := (ih hne).other_ne_empty
    exact (ih hne).trans (ih' (by simpa using hmiddle))

/-- A path with other separators shows the same way. -/
theorem sameWay_of_respelled {path other : Path} (hne : path.text ≠ "")
    (h : Respelled path.text.toList other.text.toList) : SameWay path other := by
  have hway := sameWay_ofList_of_respelled h (by simpa using hne)
  rwa [String.ofList_toList, String.ofList_toList] at hway

/-! ### What is below -/

theorem join_ne_empty {root below : Path} (hroot : root.text ≠ "")
    (hbelow : below.isAbsolute = false) : (root.join below).text ≠ "" := by
  obtain ⟨between, htext⟩ := FileTree.exists_text_join root hbelow
  simp [htext, hroot]

theorem nul_mem_join {root below : Path} (hbelow : below.isAbsolute = false) :
    '\x00' ∈ (root.join below).text.toList ↔
      '\x00' ∈ root.text.toList ∨ '\x00' ∈ below.text.toList := by
  rw [Path.join, if_neg (by simp [hbelow])]
  split <;> simp

namespace SameWay

variable {path other : Path} (h : SameWay path other)

include h

theorem checkPath_eq (hlength : other.isTooLong = path.isTooLong) :
    checkPath other = checkPath path := by
  have hempty : other.text.isEmpty = false ∧ path.text.isEmpty = false :=
    ⟨by simpa using h.other_ne_empty, by simpa using h.ne_empty⟩
  have hnul : other.text.toList.contains '\x00' = path.text.toList.contains '\x00' := by
    rw [Bool.eq_iff_iff, List.contains_iff_mem, List.contains_iff_mem]
    exact h.nul_iff
  have hlimit : pathLimit ≤ other.text.utf8ByteSize ↔ pathLimit ≤ path.text.utf8ByteSize := by
    simpa [isTooLong] using hlength
  simp only [checkPath, hnul, hempty, hlimit]

/-- Both lead to the same directory, if to any. -/
theorem resolveDirectory_eq (tree : FileTree) (hlength : other.isTooLong = path.isTooLong) :
    resolveDirectory tree other = resolveDirectory tree path := by
  rw [FileTree.resolveDirectory_eq, FileTree.resolveDirectory_eq, resolve, resolve, resolveFrom,
    resolveFrom, h.checkPath_eq hlength, FileTree.startOf, FileTree.startOf, h.isAbsolute_eq]
  cases checkPath path with
  | error cause => rfl
  | ok value =>
    -- Nothing is written behind the paths, but to look for a directory is as good as to do so.
    have hwalk := h.walk_eq tree FileTree.linkLimit (FileTree.startOf path tree.home) [.stay]
      (List.cons_ne_nil _ _)
    have hasked := congrArg FileTree.directoryOf hwalk
    rwa [FileTree.directoryOf_walk_append_stay, FileTree.directoryOf_walk_append_stay] at hasked

/-- What is below two such paths is again below two such paths. -/
theorem join (below : Path) : SameWay (path.join below) (other.join below) := by
  cases hbelow : below.isAbsolute with
  | true =>
    have hne : below.text ≠ "" := by
      intro hempty
      simp [isAbsolute, hempty] at hbelow
    simpa [Path.join, hbelow] using refl hne
  | false =>
    refine ⟨join_ne_empty h.ne_empty hbelow, join_ne_empty h.other_ne_empty hbelow, ?_, ?_, ?_,
      fun tree links place more hmore => ?_⟩
    · rw [FileTree.isAbsolute_join h.ne_empty hbelow,
        FileTree.isAbsolute_join h.other_ne_empty hbelow, h.isAbsolute_eq]
    · rw [nul_mem_join hbelow, nul_mem_join hbelow, h.nul_iff]
    · rw [components_join h.ne_empty hbelow, components_join h.other_ne_empty hbelow,
        h.components_eq]
    · rw [FileTree.walk_join_append h.ne_empty hbelow, FileTree.walk_join_append h.other_ne_empty
        hbelow, h.walk_eq _ _ _ _ (List.append_ne_nil_of_right_ne_nil _ hmore)]

theorem walk_join_eq (tree : FileTree) (links : Nat) (place : FileTree.Location) {below : Path}
    (hbelow : below.isAbsolute = false) :
    walk tree links place (stepsOf (other.join below)) =
      walk tree links place (stepsOf (path.join below)) := by
  rw [FileTree.walk_join _ _ _ h.other_ne_empty hbelow, FileTree.walk_join _ _ _ h.ne_empty hbelow,
    h.walk_eq _ _ _ _ (FileTree.stepsOf_ne_nil below)]

/-- Below both the same is found. -/
theorem resolve_join_eq (tree : FileTree) (below : Path)
    (hlength : (other.join below).isTooLong = (path.join below).isTooLong) :
    resolve tree (other.join below) = resolve tree (path.join below) := by
  cases hbelow : below.isAbsolute with
  | true => simp [Path.join, hbelow]
  | false =>
    rw [resolve, resolve, resolveFrom, resolveFrom, (h.join below).checkPath_eq hlength,
      FileTree.startOf_join _ h.other_ne_empty hbelow, FileTree.startOf_join _ h.ne_empty hbelow,
      h.walk_join_eq _ _ _ hbelow, FileTree.startOf, FileTree.startOf, h.isAbsolute_eq]

end SameWay

end Path

end JobImages
