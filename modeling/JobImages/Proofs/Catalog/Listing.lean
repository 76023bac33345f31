import JobImages.Catalog
import JobImages.Proofs.FileTree.Entry
import JobImages.Proofs.Text.ByteOrder

/-!
# What a catalog lists

The jobs of a root are its entries that are not hidden and lead to a directory, each once, in the
order of the bytes of their names.  The order in which the tree holds its places is of no account:
what stands where is the same in every order, so the same names are left, and sorted they are one
list.

## Main results

* `FileTree.node?_of_perm`, `FileTree.list_perm` — trees that differ in their order only;
* `Catalog.pairwise_lt_sortNames` — different names come out of sorting in strict order;
* `Catalog.sortNames_eq_of_perm` — and in one order, whichever they came in;
* `Catalog.jobDirectories_exact` — the listing.
-/

namespace JobImages

namespace FileTree

/-! ## Trees in another order -/

theorem lookup_eq_some_iff_mem {nodes : List (Location × Node)}
    (hdistinct : (nodes.map Prod.fst).Nodup) {location : Location} {node : Node} :
    nodes.lookup location = some node ↔ (location, node) ∈ nodes := by
  induction nodes with
  | nil => simp
  | cons first rest ih =>
    obtain ⟨place, what⟩ := first
    rw [List.map_cons, List.nodup_cons] at hdistinct
    rw [List.lookup_cons, List.mem_cons, Prod.mk.injEq]
    by_cases hplace : location = place
    · subst hplace
      -- Nothing further down is at the place that stands first.
      have hrest : (location, node) ∉ rest := fun hmem =>
        hdistinct.1 (List.mem_map.2 ⟨_, hmem, rfl⟩)
      simp [hrest, eq_comm]
    · have hne : (location == place) = false := by simpa using hplace
      rw [hne, ← ih hdistinct.2]
      simp [hplace]

variable {tree other : FileTree} (hperm : other.nodes.Perm tree.nodes)

include hperm

/-- In every order of a tree the same stands at a place. -/
theorem node?_of_perm (location : Location) : other.node? location = tree.node? location := by
  unfold node?
  split
  · rfl
  · apply Option.ext
    intro node
    rw [lookup_eq_some_iff_mem other.distinct, lookup_eq_some_iff_mem tree.distinct,
      hperm.mem_iff]

theorem names_perm (directory : Location) : (other.names directory).Perm (tree.names directory) :=
  hperm.filterMap _

/-- In another order of the tree the entries of a directory are in another order as well. -/
theorem list_perm (hhome : other.home = tree.home) (path : Path) :
    (∃ cause, other.list path = .error cause ∧ tree.list path = .error cause) ∨
      ∃ names names', other.list path = .ok names ∧ tree.list path = .ok names' ∧
        names.Perm names' := by
  unfold list
  rw [resolveDirectory_congr (node?_of_perm hperm) hhome]
  cases resolveDirectory tree path with
  | error cause => exact .inl ⟨cause, rfl, rfl⟩
  | ok place => exact .inr ⟨_, _, rfl, rfl, names_perm hperm place⟩

end FileTree

namespace Catalog

open FileTree (Name Location Node IsEntryName LeadsToDirectory)

/-! ## Sorting -/

/-- Names that are in order each way round are the same. -/
theorem eq_of_not_lt {a b : Name} (hab : ¬ b < a) (hba : ¬ a < b) : a = b :=
  List.le_antisymm (List.not_lt.1 hab) (List.not_lt.1 hba)

/-- Sorting different names leaves each below the next. -/
theorem pairwise_lt_sortNames {names : List Name} (h : names.Nodup) :
    (sortNames names).Pairwise (· < ·) := by
  have hnodup : (sortNames names).Nodup := (sortNames_perm names).nodup_iff.2 h
  refine ((pairwise_sortNames names).and hnodup).imp fun {a b} hab => ?_
  obtain ⟨hle, hne⟩ := hab
  exact Decidable.byContradiction fun hlt => hne (eq_of_not_lt hle hlt)

/-- Sorting gives the same list whatever the order was before. -/
theorem sortNames_eq_of_perm {names names' : List Name} (h : names.Perm names') :
    sortNames names = sortNames names' := by
  have hsorted : (sortNames names).Perm (sortNames names') :=
    ((sortNames_perm names).trans h).trans (sortNames_perm names').symm
  exact List.Perm.eq_of_pairwise (fun a b _ _ hab hba => eq_of_not_lt hab hba)
    (pairwise_sortNames names) (pairwise_sortNames names') hsorted

/-! ## The names of jobs -/

section Names

variable {tree : FileTree} {root : Path} {place : Location}

theorem isHidden_eq_false_iff {name : Name} : isHidden name = false ↔ name.head? ≠ some '.' := by
  simp [isHidden]

theorem list_of_resolve (h : tree.resolve root = .ok (.directory place)) :
    ∃ entries, tree.list root = .ok entries ∧ entries.Nodup ∧
      ∀ name, name ∈ entries ↔ ∃ node, tree.node? (place ++ [name]) = some node := by
  unfold FileTree.list
  rw [FileTree.resolveDirectory_eq_ok_iff.2 h]
  exact ⟨_, rfl, FileTree.nodup_names tree place, fun name => FileTree.mem_names_iff⟩

/-- The names of the jobs of a root: entries that are not hidden and lead to a directory. -/
theorem exists_jobNames (h : tree.resolve root = .ok (.directory place)) :
    ∃ names, jobNames tree root = .ok names ∧ names.Pairwise (· < ·) ∧
      ∀ name, name ∈ names ↔
        (∃ node, tree.node? (place ++ [name]) = some node) ∧ name.head? ≠ some '.' ∧
          ∃ found, tree.resolve (entryPath root name) = .ok (.directory found) := by
  obtain ⟨entries, hlist, hnodup, hentry⟩ := list_of_resolve h
  refine ⟨_, by rw [jobNames, hlist], pairwise_lt_sortNames (hnodup.filter _), fun name => ?_⟩
  rw [(sortNames_perm _).mem_iff, List.mem_filter, hentry, Bool.and_eq_true, Bool.not_eq_true',
    isHidden_eq_false_iff, FileTree.isDirectory_iff]

theorem jobNames_of_not_directory
    (h : ∀ place, tree.resolve root ≠ .ok (.directory place)) :
    ∃ cause, tree.resolveDirectory root = .error cause ∧ jobNames tree root = .error cause := by
  cases hresolve : tree.resolveDirectory root with
  | ok place => exact absurd (FileTree.resolveDirectory_eq_ok_iff.1 hresolve) (h place)
  | error cause =>
    refine ⟨cause, rfl, ?_⟩
    rw [jobNames, FileTree.list, hresolve]

/-- Whether an entry is among the jobs, by what stands there. -/
theorem resolve_entryPath_iff (h : tree.resolve root = .ok (.directory place)) :
    ∃ links ≤ FileTree.linkLimit, ∀ name node, IsEntryName name →
      tree.node? (place ++ [name]) = some node →
        ((∃ found, tree.resolve (entryPath root name) = .ok (.directory found)) ↔
          FileTree.checkPath (entryPath root name) = .ok () ∧ FileTree.isTooLong name = false ∧
            LeadsToDirectory tree links place node) := by
  obtain ⟨links, hlinks, hresolve⟩ := FileTree.exists_resolve_entry h
  refine ⟨links, hlinks, fun name node hname hnode => ?_⟩
  by_cases hcheck : FileTree.checkPath (entryPath root name) = .ok ()
  · have hwalk : tree.resolve (entryPath root name) = tree.walk links place [.enter name] :=
      hresolve name hname hcheck
    rw [hwalk, FileTree.walk_entry_iff]
    simp [hcheck, hnode]
  · constructor
    · rintro ⟨found, hfound⟩
      exact absurd (FileTree.checkPath_of_resolve hfound) hcheck
    · rintro ⟨hok, -⟩
      exact absurd hok hcheck

/-- The names of the jobs do not depend on the order of the tree. -/
theorem jobNames_of_perm {other : FileTree} (hperm : other.nodes.Perm tree.nodes)
    (hhome : other.home = tree.home) :
    jobNames other root = jobNames tree root := by
  unfold jobNames
  rcases FileTree.list_perm hperm hhome root with
    ⟨cause, hother, htree⟩ | ⟨names, names', hother, htree, hnames⟩
  · rw [hother, htree]
  · rw [hother, htree]
    simp only [FileTree.isDirectory_congr (FileTree.node?_of_perm hperm) hhome]
    rw [sortNames_eq_of_perm (hnames.filter _)]

end Names

/-! ## The listing -/

/-- Every job that is listed leads to a directory. -/
theorem resolve_of_mem_jobDirectories {tree : FileTree} {root : Path} {fileName : String}
    {jobs : List JobDirectory} (hjobs : jobDirectories tree root fileName = .ok jobs)
    {job : JobDirectory} (hjob : job ∈ jobs) :
    job = JobDirectory.ofPath job.path fileName ∧
      ∃ place, tree.resolve job.path = .ok (.directory place) := by
  unfold jobDirectories at hjobs
  split at hjobs
  · next names hnames =>
    cases hjobs
    obtain ⟨name, hname, rfl⟩ := List.mem_map.1 hjob
    refine ⟨rfl, ?_⟩
    unfold jobNames at hnames
    split at hnames
    · next entries hentries =>
      cases hnames
      obtain ⟨-, hkept⟩ := List.mem_filter.1 ((sortNames_perm _).mem_iff.1 hname)
      exact FileTree.isDirectory_iff.1 (Bool.and_eq_true_iff.1 hkept).2
    · cases hnames
  · cases hjobs

/-- The listing of a jobs root is exact.  It fails if the root leads to no directory.  Otherwise it
has each entry that is not hidden and leads to a directory, once, in the order of the bytes of the
names.  A file is none of them, and a link is one if its target leads to a directory as seen from
the root with the links that are left over there.  The order of the tree does not matter. -/
theorem jobDirectories_exact (tree : FileTree) (root : Path) (fileName : String) :
    ((∀ place, tree.resolve root ≠ .ok (.directory place)) →
      ∃ cause, tree.resolveDirectory root = .error cause ∧
        jobDirectories tree root fileName = .error (.rootUnreadable root cause)) ∧
    (∀ place, tree.resolve root = .ok (.directory place) →
      ∃ names : List Name,
        jobDirectories tree root fileName =
          .ok (names.map fun name =>
            { path := root.join ⟨String.ofList name⟩
              metadataPath := (root.join ⟨String.ofList name⟩).join ⟨fileName⟩ }) ∧
        (∀ name, name ∈ names ↔
          (∃ node, tree.node? (place ++ [name]) = some node) ∧
          name.head? ≠ some '.' ∧
          ∃ found, tree.resolve (root.join ⟨String.ofList name⟩) = .ok (.directory found)) ∧
        names.Pairwise (fun a b =>
          Text.toBytes (String.ofList a) < Text.toBytes (String.ofList b)) ∧
        ∃ links ≤ FileTree.linkLimit, ∀ name node, IsEntryName name →
          tree.node? (place ++ [name]) = some node →
            (name ∈ names ↔ name.head? ≠ some '.' ∧
              FileTree.checkPath (root.join ⟨String.ofList name⟩) = .ok () ∧
              FileTree.isTooLong name = false ∧ LeadsToDirectory tree links place node)) ∧
    ∀ other : FileTree, other.nodes.Perm tree.nodes → other.home = tree.home →
      jobDirectories other root fileName = jobDirectories tree root fileName := by
  refine ⟨fun hroot => ?_, fun place hroot => ?_, fun other hperm hhome => ?_⟩
  · obtain ⟨cause, hcause, hnames⟩ := jobNames_of_not_directory hroot
    exact ⟨cause, hcause, by rw [jobDirectories, hnames]⟩
  · obtain ⟨names, hnames, hsorted, hmem⟩ := exists_jobNames hroot
    obtain ⟨links, hlinks, hkind⟩ := resolve_entryPath_iff hroot
    refine ⟨names, ?_, hmem, ?_, links, hlinks, ?_⟩
    · rw [jobDirectories, hnames]
      rfl
    · refine hsorted.imp fun {a b} hab => ?_
      rwa [Text.toBytes_lt_toBytes_iff, String.toList_ofList, String.toList_ofList]
    · intro name node hname hnode
      have hstands : ∃ node, tree.node? (place ++ [name]) = some node := ⟨node, hnode⟩
      rw [hmem, hkind name node hname hnode]
      exact and_iff_right hstands
  · rw [jobDirectories, jobDirectories, jobNames_of_perm hperm hhome]

/-- An absolute root, seen from elsewhere.  A link to a directory is listed under its own name,
whether it says where that is from the root of the system or from the directory of the link.  A link
to itself, one to nothing, a file and a hidden directory are not listed. -/
theorem jobDirectories_exact_of_links :
    let tree : FileTree :=
      { nodes := [([['h']], .directory), ([['r']], .directory), ([['x']], .directory),
          ([['r'], ['z']], .directory), ([['r'], ['e']], .link ⟨"e"⟩),
          ([['r'], ['d']], .link ⟨"/x"⟩), ([['r'], ['u']], .link ⟨"../h"⟩),
          ([['r'], ['c']], .file []), ([['r'], ['.', 'b']], .directory),
          ([['r'], ['a']], .link ⟨"/nowhere"⟩)]
        distinct := by decide
        home := [['h']] }
    tree.resolve ⟨"/r"⟩ = .ok (.directory [['r']]) ∧
      ∃ names : List Name,
        jobDirectories tree ⟨"/r"⟩ "metadata.json" =
          .ok (names.map fun name => JobDirectory.ofPath (entryPath ⟨"/r"⟩ name) "metadata.json") ∧
        ['z'] ∈ names ∧ ['d'] ∈ names ∧ ['u'] ∈ names ∧ ['e'] ∉ names ∧ ['c'] ∉ names ∧
        ['.', 'b'] ∉ names ∧ ['a'] ∉ names := by
  intro tree
  have hroot : tree.resolve ⟨"/r"⟩ = .ok (.directory [['r']]) := rfl
  obtain ⟨names, hlisting, hmem, -⟩ :=
    (jobDirectories_exact tree ⟨"/r"⟩ "metadata.json").2.1 [['r']] hroot
  refine ⟨hroot, names, hlisting, ?_, ?_, ?_, ?_, ?_, ?_, ?_⟩
  · exact (hmem ['z']).2 ⟨⟨.directory, rfl⟩, by decide, [['r'], ['z']], rfl⟩
  · exact (hmem ['d']).2 ⟨⟨.link ⟨"/x"⟩, rfl⟩, by decide, [['x']], rfl⟩
  · exact (hmem ['u']).2 ⟨⟨.link ⟨"../h"⟩, rfl⟩, by decide, [['h']], rfl⟩
  · intro h
    obtain ⟨-, -, found, hfound⟩ := (hmem ['e']).1 h
    have hloop : tree.resolve (Path.join ⟨"/r"⟩ ⟨String.ofList ['e']⟩) = .error .tooManyLinks := rfl
    rw [hloop] at hfound
    cases hfound
  · intro h
    obtain ⟨-, -, found, hfound⟩ := (hmem ['c']).1 h
    have hfile : tree.resolve (Path.join ⟨"/r"⟩ ⟨String.ofList ['c']⟩) =
      .ok (.file [['r'], ['c']] []) := rfl
    rw [hfile] at hfound
    cases hfound
  · intro h
    exact ((hmem ['.', 'b']).1 h).2.1 rfl
  · intro h
    obtain ⟨-, -, found, hfound⟩ := (hmem ['a']).1 h
    have hvacant : tree.resolve (Path.join ⟨"/r"⟩ ⟨String.ofList ['a']⟩) =
      .ok (.vacant [['n', 'o', 'w', 'h', 'e', 'r', 'e']]) := rfl
    rw [hvacant] at hfound
    cases hfound

end Catalog

end JobImages
