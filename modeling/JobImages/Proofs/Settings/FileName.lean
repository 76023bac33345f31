import JobImages.JobDirectory
import JobImages.Proofs.FileTree.Entry
import JobImages.Settings

/-!
# The name of the metadata file

Settings are accepted only if the name of the metadata file is not blank and has no separator in
it.  Below a directory such a name is one more component: that of an entry, unless the name is a
dot, which adds nothing, or two dots, which lead back out.  Both of these are accepted.

## Main definitions

* `JobDirectory.IsEntryPath` — a path that names an entry of a directory.

## Main results

* `Path.components_join` — the components of a path below another;
* `JobSettings.check_eq_ok_iff` — the settings that are accepted;
* `JobDirectory.isEntryPath_metadataPath_iff` — when the metadata file is looked for in the job.
-/

namespace JobImages

/-! ## Components -/

namespace Path

/-- What the components of a path begin with besides what its pieces contribute. -/
def lead (path : Path) : List Component :=
  if (Text.splitOn '/' path.text.toList).head? = some ['.'] then [.here]
  else if path.isAbsolute then [.root] else []

theorem components_eq (path : Path) :
    path.components =
      path.lead ++ (Text.splitOn '/' path.text.toList).flatMap ofPiece := by
  unfold components lead
  split
  · next h => exact absurd h (Text.splitOn_ne_nil _ _)
  · next pieces h => simp [h, ofPiece]
  · next pieces hne hdot =>
    have hhead : (Text.splitOn '/' path.text.toList).head? ≠ some ['.'] := by
      intro hhead
      obtain ⟨rest, hrest⟩ := List.head?_eq_some_iff.1 hhead
      exact hdot rest hrest
    rw [if_neg hhead]

variable {root other : Path}

/-- The pieces of a path below another are those of both, without the empty one that stands for a
separator at the end. -/
theorem exists_pieces_join (hroot : root.text ≠ "") (hother : other.isAbsolute = false) :
    ∃ pieces ending, pieces ≠ [] ∧ (ending = [] ∨ ending = [[]]) ∧
      Text.splitOn '/' root.text.toList = pieces ++ ending ∧
      Text.splitOn '/' (root.join other).text.toList =
        pieces ++ Text.splitOn '/' other.text.toList := by
  have hne : root.text.toList ≠ [] := by simpa using hroot
  obtain ⟨before, last, htext⟩ : ∃ before last, root.text.toList = before ++ [last] :=
    ⟨_, _, (List.dropLast_concat_getLast hne).symm⟩
  have hjoin := FileTree.toList_join hother before last htext
  by_cases hlast : last = '/'
  · subst hlast
    rw [if_pos rfl] at hjoin
    exact ⟨_, [[]], Text.splitOn_ne_nil '/' before, .inr rfl,
      by rw [htext, Text.splitOn_append]; rfl, by rw [hjoin, Text.splitOn_append]⟩
  · rw [if_neg hlast] at hjoin
    exact ⟨_, [], Text.splitOn_ne_nil '/' root.text.toList, .inl rfl,
      (List.append_nil _).symm, by rw [hjoin, Text.splitOn_append]⟩

/-- A path below another has the components of that one and then its own, dots apart. -/
theorem components_join (hroot : root.text ≠ "") (hother : other.isAbsolute = false) :
    (root.join other).components =
      root.components ++ (Text.splitOn '/' other.text.toList).flatMap ofPiece := by
  obtain ⟨pieces, ending, hne, hending, hpieces, hjoin⟩ := exists_pieces_join hroot hother
  obtain ⟨first, rest, rfl⟩ := List.exists_cons_of_ne_nil hne
  have hlead : (root.join other).lead = root.lead := by
    simp only [lead, hpieces, hjoin, FileTree.isAbsolute_join hroot hother, List.cons_append,
      List.head?_cons]
  have hquiet : ending.flatMap ofPiece = [] := by
    rcases hending with rfl | rfl <;> rfl
  rw [components_eq, components_eq, hlead, hpieces, hjoin, List.flatMap_append,
    List.flatMap_append, hquiet, List.append_nil, List.append_assoc]

/-- No component is named by dots. -/
theorem ne_dots_of_name_mem {path : Path} {text : List Char}
    (h : .name text ∈ path.components) : text ≠ ['.'] ∧ text ≠ ['.', '.'] := by
  rw [components_eq, List.mem_append] at h
  rcases h with h | h
  · unfold lead at h
    split at h
    · simp at h
    · split at h <;> simp at h
  · obtain ⟨piece, -, hpiece⟩ := List.mem_flatMap.1 h
    unfold ofPiece at hpiece
    split at hpiece
    · cases hpiece
    · cases hpiece
    · simp at hpiece
    · next hhere hup =>
      rw [List.mem_singleton, Component.name.injEq] at hpiece
      subst hpiece
      exact ⟨hhere, hup⟩

end Path

theorem FileTree.IsEntryName.ofPiece_path {name : FileTree.Name} (h : FileTree.IsEntryName name) :
    Path.ofPiece name = [.name name] := by
  unfold Path.ofPiece
  split
  · exact absurd rfl h.ne_nil
  · exact absurd rfl h.ne_here
  · exact absurd rfl h.ne_up
  · rfl

/-! ## Settings that are accepted -/

theorem refuseIf_eq_ok_iff {bad : Bool} {problem : SettingsProblem} :
    refuseIf bad problem = .ok () ↔ bad = false := by
  unfold refuseIf
  cases bad <;> simp

theorem bind_eq_ok_iff {first next : Check} :
    (first >>= fun _ => next) = .ok () ↔ first = .ok () ∧ next = .ok () := by
  cases first with
  | error problem => exact iff_of_false (fun h => by cases h) (fun h => by cases h.1)
  | ok value => exact (and_iff_right rfl).symm

namespace JobSettings

variable {settings : JobSettings}

/-- The settings that are accepted. -/
theorem check_eq_ok_iff :
    settings.check = .ok () ↔
      settings.jobsPath.text.isEmpty = false ∧ Text.isBlank settings.teamName = false ∧
        Text.isBlank settings.registry = false ∧
        Text.isBlank settings.metadataFileName = false ∧
        '/' ∉ settings.metadataFileName.toList ∧ '\\' ∉ settings.metadataFileName.toList := by
  have hseparated : (settings.metadataFileName.toList.any fun c => c == '/' || c == '\\') = false ↔
      '/' ∉ settings.metadataFileName.toList ∧ '\\' ∉ settings.metadataFileName.toList := by
    rw [List.any_eq_false]
    constructor
    · intro h
      exact ⟨fun hmem => h _ hmem (by decide), fun hmem => h _ hmem (by decide)⟩
    · rintro ⟨hslash, hbackslash⟩ c hc hbad
      rw [Bool.or_eq_true, beq_iff_eq, beq_iff_eq] at hbad
      rcases hbad with rfl | rfl
      · exact hslash hc
      · exact hbackslash hc
  simp only [check, bind_eq_ok_iff, refuseIf_eq_ok_iff, hseparated]

/-- The accepted name of a metadata file is one piece of a path. -/
theorem fileName_of_check (h : settings.check = .ok ()) :
    settings.metadataFileName ≠ "" ∧ '/' ∉ settings.metadataFileName.toList := by
  obtain ⟨-, -, -, hblank, hslash, -⟩ := check_eq_ok_iff.1 h
  refine ⟨fun hempty => ?_, hslash⟩
  rw [hempty] at hblank
  exact absurd Text.isBlank_empty (Bool.eq_false_iff.1 hblank)

end JobSettings

/-! ## Where the metadata file is looked for -/

namespace JobDirectory

open FileTree (IsEntryName Found)

/-- A path names an entry of a directory.  It is the directory's path with one component more, an
ordinary name.  In every tree it leads through the directory, and from there to what stands at the
entry, unless that is a link. -/
structure IsEntryPath (name : String) (directory path : Path) : Prop where
  last : path.components.getLast? = some (.name name.toList)
  above : path.components.dropLast = directory.components
  leads : ∀ (tree : FileTree) (found : Found), tree.resolve path = .ok found →
    ∃ place, tree.resolve directory = .ok (.directory place) ∧
      ((∃ target, tree.node? (place ++ [name.toList]) = some (.link target)) ∨
        tree.standing? (place ++ [name.toList]) = some found ∧ found ≠ .directory place)

section

variable {directory : Path} {name : String}

theorem isAbsolute_of_no_separator (hslash : '/' ∉ name.toList) :
    Path.isAbsolute ⟨name⟩ = false := by
  cases htext : name.toList with
  | nil => simp [Path.isAbsolute, htext]
  | cons first rest =>
    have hfirst : first ≠ '/' := by
      rintro rfl
      exact hslash (htext ▸ List.mem_cons_self)
    simpa [Path.isAbsolute, htext] using hfirst

theorem components_metadataPath (hne : directory.text ≠ "") (hslash : '/' ∉ name.toList) :
    (ofPath directory name).metadataPath.components =
      directory.components ++ Path.ofPiece name.toList := by
  rw [ofPath, Path.components_join hne (isAbsolute_of_no_separator hslash),
    Text.splitOn_of_not_mem hslash, List.flatMap_singleton]

/-- With the name of an entry the path is that of an entry. -/
theorem isEntryPath_of_isEntryName (hne : directory.text ≠ "") (hname : IsEntryName name.toList) :
    IsEntryPath name directory (ofPath directory name).metadataPath := by
  have hcomponents : (ofPath directory name).metadataPath.components =
      directory.components ++ [.name name.toList] := by
    rw [components_metadataPath hne hname.no_separator, hname.ofPiece_path]
  refine ⟨?_, ?_, fun tree found h => ?_⟩
  · rw [hcomponents, List.getLast?_concat]
  · rw [hcomponents, List.dropLast_concat]
  · obtain ⟨place, hplace, links, -, hwalk⟩ :=
      FileTree.exists_of_resolve_join hne (isAbsolute_of_no_separator hname.no_separator) h
    have hsteps : FileTree.stepsOf ⟨name⟩ = [.enter name.toList] := by
      simpa using hname.stepsOf_eq
    rw [hsteps] at hwalk
    refine ⟨place, hplace, ?_⟩
    rcases FileTree.standing?_of_walk_entry hwalk with hlink | hstands
    · exact .inl hlink
    · exact .inr ⟨hstands, FileTree.ne_directory_of_standing? hstands⟩

/-- The name of an entry path is no dots. -/
theorem IsEntryPath.ne_dots {path : Path} (h : IsEntryPath name directory path) :
    name ≠ "." ∧ name ≠ ".." := by
  have hdots := Path.ne_dots_of_name_mem (List.mem_of_getLast? h.last)
  constructor
  · rintro rfl
    exact hdots.1 rfl
  · rintro rfl
    exact hdots.2 rfl

/-- One dot leads to the directory itself. -/
theorem metadataPath_dot (hne : directory.text ≠ "") :
    (ofPath directory ".").metadataPath.components = directory.components ∧
      ∀ (tree : FileTree) (found : Found),
        tree.resolve (ofPath directory ".").metadataPath = .ok found →
          ∃ place, tree.resolve directory = .ok (.directory place) ∧
            found = .directory place := by
  constructor
  · rw [components_metadataPath hne (by decide)]
    exact List.append_nil _
  · intro tree found h
    obtain ⟨place, hplace, links, -, hwalk⟩ := FileTree.exists_of_resolve_join hne rfl h
    have hsteps : FileTree.stepsOf ⟨"."⟩ = [.stay] := rfl
    rw [hsteps, FileTree.walk_stay, FileTree.walk_nil] at hwalk
    cases hwalk
    exact ⟨place, hplace, rfl⟩

/-- Two dots lead out of the directory. -/
theorem metadataPath_dots (hne : directory.text ≠ "") :
    (ofPath directory "..").metadataPath.components = directory.components ++ [.up] ∧
      ∀ (tree : FileTree) (found : Found),
        tree.resolve (ofPath directory "..").metadataPath = .ok found →
          ∃ place, tree.resolve directory = .ok (.directory place) ∧
            found = .directory place.dropLast := by
  constructor
  · rw [components_metadataPath hne (by decide)]
    rfl
  · intro tree found h
    obtain ⟨place, hplace, links, -, hwalk⟩ := FileTree.exists_of_resolve_join hne rfl h
    have hsteps : FileTree.stepsOf ⟨".."⟩ = [.up] := rfl
    rw [hsteps, FileTree.walk_up, FileTree.walk_nil] at hwalk
    cases hwalk
    exact ⟨place, hplace, rfl⟩

end

/-- Settings that are accepted look for the metadata in an entry of the job's directory, unless the
file's name is one dot or two.  The one leads to the directory itself, the other to that above. -/
theorem isEntryPath_metadataPath_iff (settings : JobSettings) (hcheck : settings.check = .ok ())
    (directory : Path) (hne : directory.text ≠ "") :
    let name := settings.metadataFileName
    let path := (ofPath directory name).metadataPath
    (IsEntryPath name directory path ↔ name ≠ "." ∧ name ≠ "..") ∧
    (name = "." → path.components = directory.components ∧
      ∀ (tree : FileTree) (found : Found), tree.resolve path = .ok found →
        ∃ place, tree.resolve directory = .ok (.directory place) ∧ found = .directory place) ∧
    (name = ".." → path.components = directory.components ++ [.up] ∧
      ∀ (tree : FileTree) (found : Found), tree.resolve path = .ok found →
        ∃ place, tree.resolve directory = .ok (.directory place) ∧
          found = .directory place.dropLast) := by
  intro name path
  obtain ⟨hempty, hslash⟩ := JobSettings.fileName_of_check hcheck
  refine ⟨⟨IsEntryPath.ne_dots, fun ⟨hhere, hup⟩ => ?_⟩, fun hhere => ?_, fun hup => ?_⟩
  · refine isEntryPath_of_isEntryName hne ⟨?_, hslash, fun h => hhere ?_, fun h => hup ?_⟩
    · simpa using hempty
    · exact String.toList_inj.1 h
    · exact String.toList_inj.1 h
  · have hpath : path = (ofPath directory ".").metadataPath :=
      congrArg (fun name => (ofPath directory name).metadataPath) hhere
    rw [hpath]
    exact metadataPath_dot hne
  · have hpath : path = (ofPath directory "..").metadataPath :=
      congrArg (fun name => (ofPath directory name).metadataPath) hup
    rw [hpath]
    exact metadataPath_dots hne

/-- The usual name is that of an entry, also below a path that ends in a separator. -/
theorem isEntryPath_metadataPath_iff_of_usual_name :
    let settings : JobSettings := { jobsPath := ⟨"/jobs"⟩ }
    let path := (ofPath ⟨"/jobs/foo/"⟩ settings.metadataFileName).metadataPath
    settings.check = .ok () ∧ path = ⟨"/jobs/foo/metadata.json"⟩ ∧
      IsEntryPath "metadata.json" ⟨"/jobs/foo/"⟩ path := by
  intro settings path
  have hcheck : settings.check = .ok () := JobSettings.check_eq_ok_iff.2 (by decide)
  obtain ⟨hentry, -⟩ :=
    isEntryPath_metadataPath_iff settings hcheck ⟨"/jobs/foo/"⟩ (by decide)
  have hpath : path = ⟨"/jobs/foo/metadata.json"⟩ := by
    unfold path settings
    rfl
  exact ⟨hcheck, hpath, hentry.2 (by decide)⟩

/-- Two dots are accepted as the name of the metadata file, and lead from a job to the directory
that holds all jobs. -/
theorem not_isEntryPath_of_two_dots :
    let settings : JobSettings := { jobsPath := ⟨"jobs"⟩, metadataFileName := ".." }
    let tree : FileTree :=
      { nodes := [([['j', 'o', 'b', 's']], .directory),
          ([['j', 'o', 'b', 's'], ['a']], .directory)]
        distinct := by decide }
    let path := (ofPath ⟨"jobs/a"⟩ settings.metadataFileName).metadataPath
    settings.check = .ok () ∧
      path.components = [.name ['j', 'o', 'b', 's'], .name ['a'], .up] ∧
      tree.resolve path = .ok (.directory [['j', 'o', 'b', 's']]) ∧
      ¬ IsEntryPath settings.metadataFileName ⟨"jobs/a"⟩ path := by
  intro settings tree path
  have hcheck : settings.check = .ok () := JobSettings.check_eq_ok_iff.2 (by decide)
  have hup : tree.resolve path = .ok (.directory [['j', 'o', 'b', 's']]) := by
    unfold tree path settings
    rfl
  have hcomponents :
      path.components = [.name ['j', 'o', 'b', 's'], .name ['a'], .up] := by
    unfold path settings
    rfl
  exact ⟨hcheck, hcomponents, hup, fun h => h.ne_dots.2 rfl⟩

end JobDirectory

end JobImages
