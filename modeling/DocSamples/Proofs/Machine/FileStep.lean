import DocSamples.Machine.FileTree
import DocSamples.Proofs.Text.Lookup

/-!
Contract: a tree of files of which one regular file is overwritten or removed.

Owns:
- trees of files in which each place comes once, under names that can be part of a path;
- the step that overwrites a regular file, or removes it (`FileTree.FileStep`);
- what such a step leaves of the places and of the listings.

Does not own: what it does to the paths that lead through the tree (`Proofs/Machine/Thinning`).
-/

namespace DocSamples.FileTree

/-- Whether each place comes once, and is known by names that can be part of a path. -/
structure Tidy (tree : FileTree) : Prop where
  distinct : (tree.nodes.map Prod.fst).Nodup
  proper : ∀ entry ∈ tree.nodes, ∀ name ∈ entry.1, name ≠ [] ∧ '/' ∉ name

/-- A regular file is overwritten, or removed. -/
inductive FileStep (tree : FileTree) : FileTree → Prop
  | overwrite {key : Key} {node : Node} (there : tree.node? key = some node)
      (isFile : node.kind = .file) {written : Node} (staysFile : written.kind = .file) :
      FileStep tree (tree.set key written)
  | remove {key : Key} {node : Node} (there : tree.node? key = some node)
      (isFile : node.kind = .file) (bare : ∀ entry ∈ tree.nodes, key <+: entry.1 → entry.1 = key) :
      FileStep tree (tree.remove key)

/-- Whether a tree differs from another at most at one place, at which a regular file stood and
nothing else stands. -/
structure DiffersAt (key : Key) (tree left : FileTree) : Prop where
  wasFile : ∃ node, tree.node? key = some node ∧ node.kind = .file
  isFile : ∀ node, left.node? key = some node → node.kind = .file
  others : ∀ other, other ≠ key → left.node? other = tree.node? other

/-! ## Looking up places -/

theorem node?_of_ne_nil (tree : FileTree) {key : Key} (nonempty : key ≠ []) :
    tree.node? key = tree.nodes.lookup key := by
  unfold node?
  simp [nonempty]

/-- The root is no file. -/
theorem ne_nil_of_file {tree : FileTree} {key : Key} {node : Node}
    (there : tree.node? key = some node) (isFile : node.kind = .file) : key ≠ [] := by
  rintro rfl
  obtain rfl : Node.directory = node := Option.some.inj there
  exact absurd isFile (by decide)

theorem node?_remove (tree : FileTree) {key : Key} (nonempty : key ≠ []) :
    (tree.remove key).node? key = none := by
  rw [node?_of_ne_nil _ nonempty, List.lookup_eq_none_iff]
  intro entry member
  have kept := (List.mem_filter.1 member).2
  rw [bne_iff_ne]
  rintro rfl
  have below : entry.1.isPrefixOf entry.1 = true :=
    List.isPrefixOf_iff_prefix.2 (List.prefix_refl entry.1)
  simp [below] at kept

private theorem mem_of_node? {tree : FileTree} {key : Key} {node : Node} (nonempty : key ≠ [])
    (there : tree.node? key = some node) : (key, node) ∈ tree.nodes := by
  rw [node?_of_ne_nil _ nonempty, List.lookup_eq_some_iff] at there
  obtain ⟨front, back, shape, _⟩ := there
  rw [shape]
  exact List.mem_append_right front List.mem_cons_self

theorem FileStep.differsAt {tree left : FileTree} (step : FileStep tree left) :
    ∃ key, DiffersAt key tree left := by
  cases step with
  | @overwrite key node there isFile written staysFile =>
      have nonempty := ne_nil_of_file there isFile
      have now : (tree.set key written).node? key = some written := by
        rw [node?_of_ne_nil _ nonempty]
        exact List.lookup_cons_self
      refine ⟨key, ⟨node, there, isFile⟩, ?_, ?_⟩
      · intro found same
        rw [now] at same
        rw [← Option.some.inj same]
        exact staysFile
      · intro other differ
        by_cases root : other = []
        · subst root
          rfl
        · have skipped : (other == key) = false := beq_eq_false_iff_ne.2 differ
          rw [node?_of_ne_nil _ root, node?_of_ne_nil _ root, set, List.lookup_cons, skipped]
          refine lookup_filter fun entry _ same => ?_
          rw [same]
          exact bne_iff_ne.2 differ
  | @remove key node there isFile bare =>
      have nonempty := ne_nil_of_file there isFile
      have now := node?_remove tree nonempty
      refine ⟨key, ⟨node, there, isFile⟩, ?_, ?_⟩
      · intro found same
        exact absurd (now.symm.trans same) (by simp)
      · intro other differ
        by_cases root : other = []
        · subst root
          rfl
        · rw [node?_of_ne_nil _ root, node?_of_ne_nil _ root]
          refine lookup_filter fun entry member same => ?_
          rw [Bool.not_eq_true', ← Bool.not_eq_true, List.isPrefixOf_iff_prefix]
          intro below
          exact differ (same.symm.trans (bare entry member below))

theorem FileStep.tidy {tree left : FileTree} (step : FileStep tree left) (tidy : tree.Tidy) :
    left.Tidy := by
  cases step with
  | @overwrite key node there isFile written staysFile =>
      constructor
      · rw [set, List.map_cons, List.nodup_cons]
        constructor
        · intro again
          obtain ⟨entry, member, same⟩ := List.mem_map.1 again
          exact bne_iff_ne.1 (List.mem_filter.1 member).2 same
        · exact tidy.distinct.sublist (List.filter_sublist.map _)
      · intro entry member
        rcases List.mem_cons.1 member with rfl | other
        · exact tidy.proper (key, node) (mem_of_node? (ne_nil_of_file there isFile) there)
        · exact tidy.proper entry (List.mem_filter.1 other).1
  | @remove key node there isFile bare =>
      exact ⟨tidy.distinct.sublist (List.filter_sublist.map _), fun entry member =>
        tidy.proper entry (List.mem_filter.1 member).1⟩

/-! ## Listing a directory -/

theorem nameIn?_eq_some_iff {directory key : Key} {name : Text} :
    nameIn? directory key = some name ↔ key = directory ++ [name] := by
  unfold nameIn?
  constructor
  · intro named
    split at named
    next inside =>
      rw [← List.dropLast_append_getLast? name named, beq_iff_eq.1 inside]
    · cases named
  · rintro rfl
    simp

def entryIn? (directory : Key) (entry : Key × Node) : Option DirectoryEntry :=
  (nameIn? directory entry.1).map fun name => ⟨name, entry.2.kind⟩

theorem entries_eq (tree : FileTree) (directory : Key) :
    tree.entries directory = tree.nodes.filterMap (entryIn? directory) := rfl

theorem mem_entries {tree : FileTree} {directory : Key} {entry : DirectoryEntry}
    (member : entry ∈ tree.entries directory) :
    ∃ node, (directory ++ [entry.name], node) ∈ tree.nodes ∧ entry.kind = node.kind := by
  rw [entries_eq] at member
  obtain ⟨⟨key, node⟩, inNodes, shape⟩ := List.mem_filterMap.1 member
  obtain ⟨name, named, rfl⟩ := Option.map_eq_some_iff.1 shape
  rw [nameIn?_eq_some_iff] at named
  exact ⟨node, named ▸ inNodes, rfl⟩

theorem nodup_entries {tree : FileTree} (tidy : tree.Tidy) (directory : Key) :
    ((tree.entries directory).map DirectoryEntry.name).Nodup := by
  have names : (tree.entries directory).map DirectoryEntry.name =
      (tree.nodes.map Prod.fst).filterMap (nameIn? directory) := by
    rw [entries_eq, List.map_filterMap, List.filterMap_map]
    congr 1
    funext entry
    simp [entryIn?, Option.map_map, Function.comp_def]
  rw [names]
  refine tidy.distinct.filterMap fun first second name inFirst inSecond => ?_
  rw [nameIn?_eq_some_iff.1 inFirst, nameIn?_eq_some_iff.1 inSecond]

/-- Writing a file over a file changes no listing. -/
theorem entries_set {tree : FileTree} (tidy : tree.Tidy) {key : Key} {node written : Node}
    (there : tree.node? key = some node) (nonempty : key ≠ []) (sameKind : written.kind = node.kind)
    (directory : Key) : ((tree.set key written).entries directory).Perm (tree.entries directory) := by
  rw [node?_of_ne_nil _ nonempty, List.lookup_eq_some_iff] at there
  obtain ⟨front, back, shape, _⟩ := there
  have distinct := tidy.distinct
  rw [shape, List.map_append, List.map_cons, List.nodup_middle, List.nodup_cons,
    ← List.map_append] at distinct
  have others : tree.nodes.filter (·.1 != key) = front ++ back := by
    have kept : (front ++ back).filter (·.1 != key) = front ++ back := by
      rw [List.filter_eq_self]
      intro entry member
      rw [bne_iff_ne]
      rintro rfl
      exact distinct.1 (List.mem_map.2 ⟨entry, member, rfl⟩)
    rw [shape, List.filter_append, List.filter_cons_of_neg (by simp), ← List.filter_append, kept]
  have nodes : (tree.set key written).nodes.Perm (front ++ (key, written) :: back) := by
    rw [set, others]
    exact List.perm_middle.symm
  have sameEntry : entryIn? directory (key, written) = entryIn? directory (key, node) := by
    unfold entryIn?
    rw [sameKind]
  refine (nodes.filterMap (entryIn? directory)).trans (List.Perm.of_eq ?_)
  rw [entries_eq, shape, List.filterMap_append, List.filterMap_append, List.filterMap_cons,
    List.filterMap_cons, sameEntry]

/-- Removing a file takes it out of the listing that it is in, and changes no other. -/
theorem entries_remove {tree : FileTree} {key : Key}
    (bare : ∀ entry ∈ tree.nodes, key <+: entry.1 → entry.1 = key) (directory : Key) :
    (tree.remove key).entries directory =
      (tree.entries directory).filter fun entry => directory ++ [entry.name] != key := by
  rw [entries_eq, entries_eq, remove, List.filter_filterMap, List.filterMap_filter]
  refine List.filterMap_congr fun entry member => ?_
  have gone : key.isPrefixOf entry.1 = true ↔ entry.1 = key := by
    rw [List.isPrefixOf_iff_prefix]
    exact ⟨bare entry member, fun same => same ▸ List.prefix_refl _⟩
  unfold entryIn?
  cases named : nameIn? directory entry.1 with
  | none => simp
  | some name =>
      rw [nameIn?_eq_some_iff.1 named] at gone ⊢
      by_cases here : directory ++ [name] = key
      · have lost : key.isPrefixOf key = true := here ▸ gone.2 here
        simp [here, lost, Option.filter]
      · have kept : key.isPrefixOf (directory ++ [name]) = false := by
          rw [← Bool.not_eq_true, gone]
          exact here
        simp [kept, here, Option.filter]

/-- A listing loses at most the file that is gone. -/
theorem entries_of_fileStep {tree left : FileTree} (tidy : tree.Tidy)
    (step : FileStep tree left) (directory : Key) :
    ∃ kept : DirectoryEntry → Bool,
      (left.entries directory).Perm ((tree.entries directory).filter kept) ∧
        ∀ entry ∈ tree.entries directory, kept entry = false →
          entry.kind = .file ∧ left.node? (directory ++ [entry.name]) = none := by
  cases step with
  | @overwrite key node there isFile written staysFile =>
      refine ⟨fun _ => true, ?_, fun entry _ lost => absurd lost (by simp)⟩
      rw [List.filter_true]
      exact entries_set tidy there (ne_nil_of_file there isFile) (staysFile.trans isFile.symm) directory
  | @remove key node there isFile bare =>
      refine ⟨_, List.Perm.of_eq (entries_remove bare directory), fun entry member lost => ?_⟩
      have here : directory ++ [entry.name] = key := by simpa using lost
      obtain ⟨found, inNodes, kind⟩ := mem_entries member
      have nonempty := ne_nil_of_file there isFile
      rw [here] at inNodes ⊢
      rw [node?_of_ne_nil _ nonempty, lookup_of_mem tidy.distinct inNodes] at there
      refine ⟨?_, node?_remove tree nonempty⟩
      rw [kind, Option.some.inj there]
      exact isFile

end DocSamples.FileTree
