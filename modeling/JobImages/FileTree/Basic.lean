import JobImages.Path

/-!
# Trees of files

A tree holds directories, files and symbolic links below the root of a system.  It is a finite list
of places with what stands there, in no particular order, and no place occurs twice.  One directory
is the one in which a program is at work; paths that do not begin at the root are seen from there.

## Main definitions

* `FileTree.Location` — a place below the root, by the names that lead there;
* `FileTree.Node` — what stands at a place;
* `FileTree` — the tree;
* `FileTree.node?`, `FileTree.names` — what stands at a place, and what is in a directory;
* `FileTree.put`, `FileTree.removeBelow`, `FileTree.move` — the tree after a change.

## Main results

* `FileTree.mem_names_iff`, `FileTree.nodup_names` — the entries of a directory are what stands
  there, each listed once;
* `FileTree.node?_put_self`, `FileTree.node?_put_of_ne` — a change at one place leaves the others.
-/

namespace JobImages

namespace FileTree

/-- The name of an entry. -/
abbrev Name := List Char

/-- A place in a tree: the names on the way from the root. -/
abbrev Location := List Name

/-- Where a place is, as seen from the root. -/
def Location.text (location : Location) : String :=
  "/".intercalate (location.map String.ofList)

/-- What stands at a place. -/
inductive Node where
  /-- A directory. -/
  | directory
  /-- A file with its bytes. -/
  | file (content : List UInt8)
  /-- A symbolic link, whose target is seen from the directory that holds it. -/
  | link (target : Path)
  deriving DecidableEq

end FileTree

/-- A tree of files.  The root is a directory and not in the list. -/
structure FileTree where
  /-- What stands where. -/
  nodes : List (FileTree.Location × FileTree.Node)
  /-- No place occurs twice. -/
  distinct : (nodes.map Prod.fst).Nodup
  /-- The directory from which relative paths are seen. -/
  home : FileTree.Location := []

namespace FileTree

/-- The tree that is a bare root. -/
def empty : FileTree :=
  { nodes := [], distinct := List.nodup_nil }

/-- What stands at a place. -/
def node? (tree : FileTree) (location : Location) : Option Node :=
  if location = [] then some .directory else tree.nodes.lookup location

/-- The name of a place as an entry of a directory, if that is where it is. -/
def nameIn? (directory location : Location) : Option Name :=
  if location.dropLast = directory then location.getLast? else none

/-- The names of the entries of a directory, in the order of the list. -/
def names (tree : FileTree) (directory : Location) : List Name :=
  tree.nodes.filterMap fun node => nameIn? directory node.1

theorem nameIn?_eq_some_iff {directory location : Location} {name : Name} :
    nameIn? directory location = some name ↔ location = directory ++ [name] := by
  unfold nameIn?
  constructor
  · intro h
    split at h
    · next hd =>
      rw [List.getLast?_eq_some_iff] at h
      obtain ⟨above, rfl⟩ := h
      rw [← hd, List.dropLast_concat]
    · cases h
  · rintro rfl
    rw [if_pos List.dropLast_concat, List.getLast?_concat]

/-- The names of a directory's entries are those below it where something stands. -/
theorem mem_names_iff {tree : FileTree} {directory : Location} {name : Name} :
    name ∈ tree.names directory ↔ ∃ node, tree.node? (directory ++ [name]) = some node := by
  have hne : directory ++ [name] ≠ [] := by simp
  rw [names, List.mem_filterMap]
  simp only [nameIn?_eq_some_iff, node?, if_neg hne]
  constructor
  · rintro ⟨node, hnode, hlocation⟩
    have h : (tree.nodes.lookup (directory ++ [name])).isSome :=
      List.lookup_isSome_iff.2 ⟨node, hnode, by simp [hlocation]⟩
    exact Option.isSome_iff_exists.1 h
  · rintro ⟨node, h⟩
    obtain ⟨before, after, hsplit, _⟩ := List.lookup_eq_some_iff.1 h
    exact ⟨(directory ++ [name], node), by simp [hsplit], rfl⟩

/-- A directory has one entry of a name. -/
theorem nodup_names (tree : FileTree) (directory : Location) : (tree.names directory).Nodup := by
  have hdistinct := tree.distinct
  rw [List.Nodup, List.pairwise_map] at hdistinct
  rw [names, List.Nodup, List.pairwise_filterMap]
  refine hdistinct.imp fun {a b} hne name ha other hb heq => hne ?_
  rw [nameIn?_eq_some_iff] at ha hb
  rw [ha, hb, heq]

/-! ## Changes -/

/-- The tree without the places for which a test fails. -/
def keep (tree : FileTree) (test : Location → Bool) : FileTree :=
  { tree with
    nodes := tree.nodes.filter fun node => test node.1
    distinct := tree.distinct.sublist (List.filter_sublist.map Prod.fst) }

theorem mem_keep {tree : FileTree} {test : Location → Bool} {location : Location}
    (h : location ∈ (tree.keep test).nodes.map Prod.fst) : test location = true := by
  obtain ⟨node, hnode, rfl⟩ := List.mem_map.1 h
  simpa using (List.mem_filter.1 hnode).2

/-- The tree with something at a place, instead of what stood there. -/
def put (tree : FileTree) (location : Location) (node : Node) : FileTree :=
  let rest := tree.keep (· != location)
  { tree with
    nodes := (location, node) :: rest.nodes
    distinct := by
      refine List.nodup_cons.2 ⟨fun h => ?_, rest.distinct⟩
      simpa using mem_keep h }

theorem lookup_filter_of_test {nodes : List (Location × Node)} {test : Location → Bool}
    {location : Location} (h : test location = true) :
    (nodes.filter fun node => test node.1).lookup location = nodes.lookup location := by
  induction nodes with
  | nil => rfl
  | cons node rest ih =>
    obtain ⟨place, what⟩ := node
    by_cases hplace : location = place
    · subst hplace
      rw [List.filter_cons, if_pos h, List.lookup_cons, List.lookup_cons, beq_self_eq_true]
    · have hne : (location == place) = false := by simpa using hplace
      rw [List.lookup_cons, hne, ← ih, List.filter_cons]
      split
      · rw [List.lookup_cons, hne]
      · rfl

/-- What stands at a place that is kept. -/
theorem node?_keep {tree : FileTree} {test : Location → Bool} {location : Location}
    (h : test location = true) : (tree.keep test).node? location = tree.node? location := by
  unfold node? keep
  rw [lookup_filter_of_test h]

/-- What was put at a place stands there. -/
theorem node?_put_self (tree : FileTree) {location : Location} (node : Node)
    (h : location ≠ []) : (tree.put location node).node? location = some node := by
  rw [node?, if_neg h]
  exact List.lookup_cons_self

/-- What stands at every other place stays. -/
theorem node?_put_of_ne (tree : FileTree) {location other : Location} (node : Node)
    (h : other ≠ location) : (tree.put location node).node? other = tree.node? other := by
  have hkeep : (tree.keep (· != location)).node? other = tree.node? other :=
    node?_keep (by simpa using h)
  rw [← hkeep]
  have hne : (other == location) = false := by simpa using h
  unfold node? put
  rw [List.lookup_cons, hne]

/-- Whether a place is another or below it. -/
def isBelow (top location : Location) : Bool :=
  top.isPrefixOf location

/-- The tree without a place and everything below it. -/
def removeBelow (tree : FileTree) (top : Location) : FileTree :=
  tree.keep fun location => !isBelow top location

/-- A place below one top, as a place below another. -/
def relocate (source target location : Location) : Location :=
  target ++ location.drop source.length

theorem relocate_injective {source target a b : Location} (ha : isBelow source a = true)
    (hb : isBelow source b = true) (h : relocate source target a = relocate source target b) :
    a = b := by
  obtain ⟨s, rfl⟩ := List.isPrefixOf_iff_prefix.1 ha
  obtain ⟨t, rfl⟩ := List.isPrefixOf_iff_prefix.1 hb
  simpa [relocate] using h

/-- The tree after a place and everything below it has gone to another place, where it takes the
place of what was there. -/
def move (tree : FileTree) (source target : Location) : FileTree :=
  let moved := tree.keep (isBelow source)
  let rest := tree.keep fun location => !isBelow source location && !isBelow target location
  { tree with
    nodes := moved.nodes.map (fun node => (relocate source target node.1, node.2)) ++ rest.nodes
    distinct := by
      have hmoved : (moved.nodes.map fun node => relocate source target node.1).Nodup := by
        have hd := moved.distinct
        rw [List.Nodup, List.pairwise_map] at hd ⊢
        refine hd.imp_of_mem fun {a b} ha hb hne h => hne ?_
        exact relocate_injective (mem_keep (List.mem_map_of_mem ha))
          (mem_keep (List.mem_map_of_mem hb)) h
      rw [List.map_append, List.map_map]
      refine List.nodup_append.2 ⟨hmoved, rest.distinct, fun a ha b hb hab => ?_⟩
      subst hab
      obtain ⟨node, _, rfl⟩ := List.mem_map.1 ha
      have hkeep := mem_keep hb
      have hbelow : isBelow target (relocate source target node.1) = true :=
        List.isPrefixOf_iff_prefix.2 (List.prefix_append _ _)
      simp [Function.comp, hbelow] at hkeep }

end FileTree

end JobImages
