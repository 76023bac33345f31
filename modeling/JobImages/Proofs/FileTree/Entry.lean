import JobImages.Proofs.FileTree.Walk

/-!
# Entries of a directory

The path of an entry is the path of its directory, a separator, and its name.  Walking it is walking
to the directory and from there to the entry, also if the directory's path ended in a separator of
its own: that one asks for a directory, and so does the entry.

## Main definitions

* `FileTree.IsEntryName` — what an entry can be called;
* `FileTree.standing?` — what is found at a place where no link stands;
* `FileTree.LeadsToDirectory` — what is a directory once all links are followed.

## Main results

* `FileTree.walk_join` — the walk along a path below another;
* `FileTree.exists_of_resolve_join` — a path below another leads through the directory of that one;
* `FileTree.exists_resolve_entry` — what the path of an entry leads to;
* `FileTree.standing?_of_walk_entry` — an entry that is no link is what is found there;
* `FileTree.walk_entry_iff` — when that is a directory.
-/

namespace JobImages.FileTree

/-- What an entry can be called. -/
structure IsEntryName (name : Name) : Prop where
  ne_nil : name ≠ []
  no_separator : '/' ∉ name
  ne_here : name ≠ ['.']
  ne_up : name ≠ ['.', '.']

namespace IsEntryName

variable {name : Name} (h : IsEntryName name)

include h

theorem ofPiece_eq : Step.ofPiece name = .enter name := by
  unfold Step.ofPiece
  split
  · exact absurd rfl h.ne_nil
  · exact absurd rfl h.ne_here
  · exact absurd rfl h.ne_up
  · rfl

theorem stepsOf_eq : stepsOf ⟨String.ofList name⟩ = [.enter name] := by
  rw [stepsOf, String.toList_ofList, Text.splitOn_of_not_mem h.no_separator, List.map_singleton,
    h.ofPiece_eq]

theorem isAbsolute_eq_false : Path.isAbsolute ⟨String.ofList name⟩ = false := by
  cases name with
  | nil => exact absurd rfl h.ne_nil
  | cons first rest =>
    have hfirst : first ≠ '/' := fun heq => h.no_separator (heq ▸ List.mem_cons_self)
    simpa [Path.isAbsolute] using hfirst

end IsEntryName

/-! ## Paths below a path -/

section Join

variable {root other : Path}

theorem stepsOf_ne_nil (path : Path) : stepsOf path ≠ [] := by
  rw [stepsOf, Ne, List.map_eq_nil_iff]
  exact Text.splitOn_ne_nil _ _

theorem stepsOf_of_append {path : Path} {before after : List Char}
    (h : path.text.toList = before ++ '/' :: after) :
    stepsOf path = stepsOf ⟨String.ofList before⟩ ++ stepsOf ⟨String.ofList after⟩ := by
  simp only [stepsOf, h, String.toList_ofList, Text.splitOn_append, List.map_append]

theorem toList_join (hother : other.isAbsolute = false) (before : List Char) (last : Char)
    (htext : root.text.toList = before ++ [last]) :
    (root.join other).text.toList =
      if last = '/' then before ++ '/' :: other.text.toList
      else root.text.toList ++ '/' :: other.text.toList := by
  have hlast : root.text.toList.getLast?.all (· == '/') = (last == '/') := by
    rw [htext, List.getLast?_concat, Option.all_some]
  rw [Path.join, if_neg (by simp [hother]), hlast]
  by_cases hseparator : last = '/'
  · subst hseparator
    simp [htext]
  · simp [hseparator]

/-- A path below another is walked as that one and then on. -/
theorem walk_join (tree : FileTree) (links : Nat) (place : Location) (hroot : root.text ≠ "")
    (hother : other.isAbsolute = false) :
    walk tree links place (stepsOf (root.join other)) =
      walk tree links place (stepsOf root ++ stepsOf other) := by
  have hne : root.text.toList ≠ [] := by simpa using hroot
  obtain ⟨before, last, htext⟩ : ∃ before last, root.text.toList = before ++ [last] :=
    ⟨_, _, (List.dropLast_concat_getLast hne).symm⟩
  have hjoin := toList_join hother before last htext
  by_cases hseparator : last = '/'
  · -- The separator at the end asks for a directory, which the next step does anyway.
    rw [if_pos hseparator] at hjoin
    rw [hseparator] at htext
    obtain ⟨next, more, hsteps⟩ := List.exists_cons_of_ne_nil (stepsOf_ne_nil other)
    rw [stepsOf_of_append hjoin, stepsOf_of_append htext, String.ofList_toList]
    have hstay : stepsOf ⟨String.ofList []⟩ = [.stay] := rfl
    rw [hstay, hsteps, List.append_assoc]
    exact (walk_append_stay _ more next place).symm
  · rw [if_neg hseparator] at hjoin
    rw [stepsOf_of_append hjoin, String.ofList_toList, String.ofList_toList]

theorem isAbsolute_join (hroot : root.text ≠ "") (hother : other.isAbsolute = false) :
    (root.join other).isAbsolute = root.isAbsolute := by
  have hne : root.text.toList ≠ [] := by simpa using hroot
  obtain ⟨first, rest, htext⟩ := List.exists_cons_of_ne_nil hne
  rw [Path.join, if_neg (by simp [hother])]
  split <;> simp [Path.isAbsolute, htext]

theorem startOf_join (place : Location) (hroot : root.text ≠ "")
    (hother : other.isAbsolute = false) :
    startOf (root.join other) place = startOf root place := by
  rw [startOf, startOf, isAbsolute_join hroot hother]

end Join

/-! ## What an entry leads to -/

section Entry

variable {tree : FileTree} {root : Path} {place : Location}

theorem resolve_of_checkPath {path : Path} (h : checkPath path = .ok ()) :
    resolve tree path = walk tree linkLimit (startOf path tree.home) (stepsOf path) := by
  rw [resolve, resolveFrom, h]
  rfl

theorem checkPath_of_resolve {path : Path} {found : Found} (h : resolve tree path = .ok found) :
    checkPath path = .ok () := by
  cases hcheck : checkPath path with
  | ok value => rfl
  | error cause =>
    rw [resolve, resolveFrom, hcheck] at h
    cases h

theorem text_ne_of_checkPath {path : Path} (h : checkPath path = .ok ()) : path.text ≠ "" := by
  intro hempty
  rw [checkPath, hempty] at h
  cases h

theorem exists_text_join (root : Path) {other : Path} (hother : other.isAbsolute = false) :
    ∃ between, (root.join other).text = root.text ++ (between ++ other.text) := by
  rw [Path.join, if_neg (by simp [hother])]
  split
  · exact ⟨"", by rw [String.empty_append]⟩
  · exact ⟨"/", String.append_assoc⟩

theorem checkPath_eq_ok_iff {path : Path} :
    checkPath path = .ok () ↔
      '\x00' ∉ path.text.toList ∧ path.text ≠ "" ∧ path.text.utf8ByteSize < pathLimit := by
  unfold checkPath
  split
  · next h => simp [List.elem_iff.1 h]
  · split
    · next h => simp [String.isEmpty_iff.1 h]
    · split
      · next h => simp [Nat.not_lt.2 h]
      · next hnul hempty hlimit =>
        simp only [true_iff]
        exact ⟨by simpa using hnul, by simpa using hempty, Nat.not_le.1 hlimit⟩

/-- Both parts of what can be a path can be paths, unless they are empty. -/
theorem checkPath_of_join {other : Path} (hother : other.isAbsolute = false)
    (h : checkPath (root.join other) = .ok ()) :
    (root.text ≠ "" → checkPath root = .ok ()) ∧
      (other.text ≠ "" → checkPath other = .ok ()) := by
  obtain ⟨between, htext⟩ := exists_text_join root hother
  rw [checkPath_eq_ok_iff, htext] at h
  simp only [String.toList_append, List.mem_append, String.utf8ByteSize_append, not_or] at h
  obtain ⟨⟨hroot, -, hnul⟩, -, hlimit⟩ := h
  exact ⟨fun hne => checkPath_eq_ok_iff.2 ⟨hroot, hne, by omega⟩,
    fun hne => checkPath_eq_ok_iff.2 ⟨hnul, hne, by omega⟩⟩

/-- A path below another leads through the directory to which that one leads, and on from there
with the links that are left over. -/
theorem exists_of_resolve_join (hroot : root.text ≠ "") {other : Path}
    (hother : other.isAbsolute = false) {found : Found}
    (h : resolve tree (root.join other) = .ok found) :
    ∃ place, resolve tree root = .ok (.directory place) ∧
      ∃ links ≤ linkLimit, walk tree links place (stepsOf other) = .ok found := by
  have hcheck := checkPath_of_resolve h
  rw [resolve_of_checkPath hcheck, startOf_join _ hroot hother,
    walk_join tree _ _ hroot hother] at h
  obtain ⟨place, hplace⟩ := exists_walk_of_append (stepsOf_ne_nil other) h
  obtain ⟨links, hlinks, hmore⟩ := walk_append hplace
  refine ⟨place, ?_, links, hlinks, ?_⟩
  · rw [resolve_of_checkPath ((checkPath_of_join hother hcheck).1 hroot)]
    exact hplace
  · rw [← hmore]
    exact h

/-- A path below another leads to what its second part leads to, seen from the directory of the
first. -/
theorem resolveFrom_of_resolve_join (hroot : root.text ≠ "") {other : Path}
    (hother : other.isAbsolute = false) (hne : other.text ≠ "") {found : Found}
    (h : resolve tree (root.join other) = .ok found) :
    ∃ place, resolve tree root = .ok (.directory place) ∧
      resolveFrom tree place other = .ok found := by
  obtain ⟨place, hplace, links, hlinks, hwalk⟩ := exists_of_resolve_join hroot hother h
  refine ⟨place, hplace, ?_⟩
  rw [resolveFrom, (checkPath_of_join hother (checkPath_of_resolve h)).2 hne, startOf, hother]
  exact walk_of_le hlinks hwalk

theorem resolveDirectory_eq_ok_iff :
    resolveDirectory tree root = .ok place ↔ resolve tree root = .ok (.directory place) := by
  unfold resolveDirectory
  constructor
  · intro h
    split at h
    · next heq =>
      cases h
      exact heq
    all_goals cases h
  · intro h
    rw [h]

theorem isDirectory_iff :
    isDirectory tree root = true ↔ ∃ found, resolve tree root = .ok (.directory found) := by
  unfold isDirectory
  constructor
  · intro h
    split at h
    · next found heq => exact ⟨found, heq⟩
    · cases h
  · rintro ⟨found, h⟩
    rw [h]

theorem readFile_eq_ok_iff {path : Path} {content : List UInt8} :
    readFile tree path = .ok content ↔
      ∃ location, resolve tree path = .ok (.file location content) := by
  unfold readFile
  constructor
  · intro h
    split at h
    · next location found heq =>
      cases h
      exact ⟨location, heq⟩
    all_goals cases h
  · rintro ⟨location, h⟩
    rw [h]

/-- The text of a file is that of its bytes. -/
theorem readText_eq_ok_iff {path : Path} {text : String} :
    readText tree path = .ok text ↔
      ∃ location content, resolve tree path = .ok (.file location content) ∧
        Text.ofBytes? content = some text := by
  unfold readText
  constructor
  · intro h
    split at h
    · next content hcontent =>
      obtain ⟨location, hfound⟩ := readFile_eq_ok_iff.1 hcontent
      split at h
      · next found htext =>
        cases h
        exact ⟨location, content, hfound, htext⟩
      · cases h
    · cases h
  · rintro ⟨location, content, hfound, htext⟩
    simp only [readFile_eq_ok_iff.2 ⟨location, hfound⟩, htext]

/-- The path of an entry leads on from its directory, with the links that are left over there. -/
theorem exists_resolve_entry (h : resolve tree root = .ok (.directory place)) :
    ∃ links ≤ linkLimit, ∀ name, IsEntryName name →
      checkPath (root.join ⟨String.ofList name⟩) = .ok () →
        resolve tree (root.join ⟨String.ofList name⟩) = walk tree links place [.enter name] := by
  have hroot : checkPath root = .ok () := checkPath_of_resolve h
  have hne : root.text ≠ "" := text_ne_of_checkPath hroot
  rw [resolve_of_checkPath hroot] at h
  obtain ⟨links, hlinks, hmore⟩ := walk_append h
  refine ⟨links, hlinks, fun name hname hcheck => ?_⟩
  rw [resolve_of_checkPath hcheck, startOf_join _ hne hname.isAbsolute_eq_false,
    walk_join tree _ _ hne hname.isAbsolute_eq_false, hname.stepsOf_eq, hmore]

/-- What stands at an entry of a directory is a directory itself or, with so many links to spare,
a link that leads to one. -/
def LeadsToDirectory (tree : FileTree) (links : Nat) (holder : Location) : Node → Prop
  | .directory => True
  | .file _ => False
  | .link target => ∃ left found, links = left + 1 ∧
      walk tree left (startOf target holder) (stepsOf target) = .ok (.directory found)

theorem follow_nil_iff {links : Nat} {target : Path} :
    (∃ found, follow tree links place target [] = .ok (.directory found)) ↔
      LeadsToDirectory tree links place (.link target) := by
  cases links with
  | zero => simp [follow, LeadsToDirectory]
  | succ left => simp [follow, LeadsToDirectory]

/-- An entry leads to a directory if what stands there does. -/
theorem walk_entry_iff {links : Nat} {name : Name} :
    (∃ found, walk tree links place [.enter name] = .ok (.directory found)) ↔
      isTooLong name = false ∧ ∃ node, tree.node? (place ++ [name]) = some node ∧
        LeadsToDirectory tree links place node := by
  cases hname : isTooLong name with
  | true => simp [walk_of_tooLong hname]
  | false =>
    cases hnode : tree.node? (place ++ [name]) with
    | none => simp [walk_of_vacant hname hnode]
    | some node =>
      cases node with
      | directory => simp [walk_of_directory hname hnode, walk_nil, LeadsToDirectory]
      | file content => simp [walk_of_file hname hnode, LeadsToDirectory]
      | link target =>
        rw [walk_of_link hname hnode, follow_nil_iff]
        simp

/-- What is found at a place where no link stands. -/
def standing? (tree : FileTree) (location : Location) : Option Found :=
  match tree.node? location with
  | some .directory => some (.directory location)
  | some (.file content) => some (.file location content)
  | some (.link _) => none
  | none => some (.vacant location)

/-- What a single step leads to is what stands at the entry, unless that is a link. -/
theorem standing?_of_walk_entry {links : Nat} {name : Name} {found : Found}
    (h : walk tree links place [.enter name] = .ok found) :
    (∃ target, tree.node? (place ++ [name]) = some (.link target)) ∨
      standing? tree (place ++ [name]) = some found := by
  cases hname : isTooLong name with
  | true => simp [walk_of_tooLong hname] at h
  | false =>
    unfold standing?
    cases hnode : tree.node? (place ++ [name]) with
    | none => simpa [walk_of_vacant hname hnode] using h
    | some node =>
      cases node with
      | directory => simpa [walk_of_directory hname hnode, walk_nil] using h
      | file content => simpa [walk_of_file hname hnode] using h
      | link target => exact .inl ⟨target, rfl⟩

/-- An entry is another place than its directory. -/
theorem ne_directory_of_standing? {name : Name} {found : Found}
    (h : standing? tree (place ++ [name]) = some found) : found ≠ .directory place := by
  rintro rfl
  unfold standing? at h
  split at h
  · simp at h
  all_goals cases h

end Entry

end JobImages.FileTree
