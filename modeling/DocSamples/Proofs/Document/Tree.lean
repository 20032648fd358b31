import DocSamples.Document.Directory
import DocSamples.Proofs.Text.Utf8

/-!
Contract: finite trees of files, and the order in which a walk comes upon their files.

Owns:
- trees of directories, regular files, links and special files (`DirectoryTree`);
- the node at a path that leads through directories only;
- the order of paths, component by component, and the files of a tree in that order.

Does not own: any system that shows a tree, or the walk (`Proofs/Document/Walk`).

A link stands for itself: what it leads to may be read, but no path leads through it.
-/

namespace DocSamples

/-- What the system gives when a file is read as a whole. -/
abbrev Reading := Except SystemError Bytes

inductive LinkTarget where
  | file (content : Reading)
  | directory
  | special
  /-- Nothing, for the given cause: it dangles, or it leads to itself. -/
  | nothing (cause : SystemError)

/-- A finite tree of files.  The children of a directory are those under its names; each
name is there once, is not empty and holds no slash. -/
inductive DirectoryTree where
  | file (content : Reading)
  | link (target : LinkTarget)
  | special
  | directory
      (names : List Text)
      (distinct : names.Nodup)
      (proper : ∀ name ∈ names, name ≠ [] ∧ '/' ∉ name)
      (child : Text → DirectoryTree)

namespace DirectoryTree

/-- How the directory that holds a node lists it. -/
def kind : DirectoryTree → FileKind
  | .file _ => .file
  | .link _ => .link
  | .special => .special
  | .directory .. => .directory

/-- What reading a node gives, if it is a regular file or a link that leads to one. -/
def content? : DirectoryTree → Option Reading
  | .file content | .link (.file content) => some content
  | .link _ | .special | .directory .. => none

/-- The node at a path, if only directories are passed on the way. -/
def at? : DirectoryTree → (path : List Text) → Option DirectoryTree
  | node, [] => some node
  | .directory names _ _ child, name :: path =>
    if name ∈ names then (child name).at? path else none
  | .file _, _ :: _ | .link _, _ :: _ | .special, _ :: _ => none

def HasDocument (tree : DirectoryTree) (path : List Text) (content : Reading) : Prop :=
  (∃ node, tree.at? path = some node ∧ node.content? = some content) ∧
    ∃ name, path.getLast? = some name ∧ isDocumentName name = true

/-- A path that leads to a node is made of names. -/
theorem proper_of_at? {tree node : DirectoryTree} {path : List Text}
    (found : tree.at? path = some node) : ∀ name ∈ path, name ≠ [] ∧ '/' ∉ name := by
  induction path generalizing tree with
  | nil => exact fun name member => absurd member List.not_mem_nil
  | cons first path inductionHypothesis =>
      cases tree with
      | directory names distinct proper child =>
          rw [at?] at found
          by_cases member : first ∈ names
          · rw [if_pos member] at found
            intro name inPath
            rcases List.mem_cons.1 inPath with rfl | later
            · exact proper name member
            · exact inductionHypothesis found name later
          · rw [if_neg member] at found
            exact absurd found (by simp)
      | file | link | special => exact absurd found (by simp [at?])

end DirectoryTree

/-! ## The order of paths -/

/-- The order of paths: by their components, each compared byte by byte.  A path comes
after all that lead to it. -/
def Path.Precedes (left right : List Text) : Prop :=
  left.map Utf8.encode < right.map Utf8.encode

private theorem Path.precedes_cons_same {name : Text} {left right : List Text}
    (precedes : Path.Precedes left right) : Path.Precedes (name :: left) (name :: right) := by
  unfold Path.Precedes at precedes ⊢
  rw [List.map_cons, List.map_cons, List.cons_lt_cons_iff]
  exact .inr ⟨rfl, precedes⟩

private theorem Path.precedes_cons_of_lt {earlier later : Text} (left right : List Text)
    (lt : Utf8.encode earlier < Utf8.encode later) :
    Path.Precedes (earlier :: left) (later :: right) := by
  unfold Path.Precedes
  rw [List.map_cons, List.map_cons, List.cons_lt_cons_iff]
  exact .inl lt

/-! ## Sorting by name -/

theorem nameLE_trans (first second third : Text) (before : nameLE first second = true)
    (after : nameLE second third = true) : nameLE first third = true := by
  unfold nameLE at before after ⊢
  rw [decide_eq_true_eq] at before after ⊢
  exact List.le_trans before after

theorem nameLE_total (left right : Text) : (nameLE left right || nameLE right left) = true := by
  unfold nameLE
  rw [Bool.or_eq_true, decide_eq_true_eq, decide_eq_true_eq]
  exact List.le_total _ _

theorem nameLE_antisymm {left right : Text} (before : nameLE left right = true)
    (after : nameLE right left = true) : left = right := by
  unfold nameLE at before after
  rw [decide_eq_true_eq] at before after
  exact Utf8.encode_injective (List.le_antisymm before after)

private theorem encode_lt_of_nameLE {left right : Text} (before : nameLE left right = true)
    (differ : left ≠ right) : Utf8.encode left < Utf8.encode right := by
  by_cases lt : Utf8.encode left < Utf8.encode right
  · exact lt
  · have after : nameLE right left = true := by
      unfold nameLE
      rw [decide_eq_true_eq]
      exact lt
    exact absurd (nameLE_antisymm before after) differ

/-- Distinct names, sorted, increase strictly. -/
theorem sortedNames_pairwise {names : List Text} (distinct : names.Nodup) :
    (names.mergeSort nameLE).Pairwise fun left right =>
      Utf8.encode left < Utf8.encode right := by
  have sorted := List.pairwise_mergeSort nameLE_trans nameLE_total names
  have stillDistinct : (names.mergeSort nameLE).Nodup :=
    (List.mergeSort_perm names nameLE).nodup_iff.2 distinct
  exact (sorted.and stillDistinct).imp fun both => encode_lt_of_nameLE both.1 both.2

/-- Names have one sorted order. -/
theorem sortedNames_eq {names sorted : List Text} (same : sorted.Perm names)
    (increasing : sorted.Pairwise fun left right => nameLE left right = true) :
    names.mergeSort nameLE = sorted :=
  List.Perm.eq_of_pairwise (fun _ _ _ _ before after => nameLE_antisymm before after)
    (List.pairwise_mergeSort nameLE_trans nameLE_total names) increasing
    ((List.mergeSort_perm names nameLE).trans same.symm)

/-- Entries whose kinds depend on their names are sorted as their names are. -/
theorem sortEntries_eq {names : List Text} (kindOf : Text → FileKind)
    {entries : List DirectoryEntry}
    (listed : entries.Perm (names.map fun name => ⟨name, kindOf name⟩)) :
    sortEntries entries =
      (names.mergeSort nameLE).map fun name => ⟨name, kindOf name⟩ := by
  have fromNames : ∀ entry ∈ entries, entry = ⟨entry.name, kindOf entry.name⟩ := by
    intro entry member
    obtain ⟨name, _, rfl⟩ := List.mem_map.1 (listed.mem_iff.1 member)
    rfl
  have sorted : (sortEntries entries).Pairwise fun left right =>
      nameLE left.name right.name = true :=
    List.pairwise_mergeSort
      (fun first second third => nameLE_trans first.name second.name third.name)
      (fun left right => nameLE_total left.name right.name) entries
  have sortedNames : ((names.mergeSort nameLE).map fun name =>
      (⟨name, kindOf name⟩ : DirectoryEntry)).Pairwise fun left right =>
        nameLE left.name right.name = true :=
    List.pairwise_map.2 (List.pairwise_mergeSort nameLE_trans nameLE_total names)
  have same : (sortEntries entries).Perm
      ((names.mergeSort nameLE).map fun name => ⟨name, kindOf name⟩) :=
    ((List.mergeSort_perm entries _).trans listed).trans
      ((List.mergeSort_perm names nameLE).symm.map _)
  -- Two sorted lists with the same members are one, as two entries of one name are equal.
  refine List.Perm.eq_of_pairwise ?_ sorted sortedNames same
  intro left right inLeft inRight before after
  have leftEq := fromNames left ((List.mergeSort_perm entries _).mem_iff.1 inLeft)
  obtain ⟨name, _, rfl⟩ := List.mem_map.1 inRight
  have sameName : left.name = name := nameLE_antisymm before after
  rw [leftEq, sameName]

/-! ## The files of a tree -/

namespace DirectoryTree

/-- The regular files of a tree and its links that lead to one, each with its path: of a
directory those below its first name, then those below its next. -/
def files : DirectoryTree → List (List Text × Reading)
  | .file content | .link (.file content) => [([], content)]
  | .link .directory | .link .special | .link (.nothing _) | .special => []
  | .directory names _ _ child =>
    (names.mergeSort nameLE).flatMap fun name =>
      (child name).files.map fun file => (name :: file.1, file.2)

theorem mem_files_directory {names : List Text} {distinct : names.Nodup}
    {proper : ∀ name ∈ names, name ≠ [] ∧ '/' ∉ name} {child : Text → DirectoryTree}
    {path : List Text} {content : Reading} :
    (path, content) ∈ (directory names distinct proper child).files ↔
      ∃ name ∈ names, ∃ below, path = name :: below ∧ (below, content) ∈ (child name).files := by
  have sameNames : ∀ name, name ∈ names.mergeSort nameLE ↔ name ∈ names :=
    fun name => (List.mergeSort_perm names nameLE).mem_iff
  rw [files, List.mem_flatMap]
  constructor
  · rintro ⟨name, member, inChild⟩
    obtain ⟨file, there, same⟩ := List.mem_map.1 inChild
    rw [Prod.mk.injEq] at same
    exact ⟨name, (sameNames name).1 member, file.1, same.1.symm, same.2 ▸ there⟩
  · rintro ⟨name, member, below, rfl, there⟩
    exact ⟨name, (sameNames name).2 member, List.mem_map.2 ⟨(below, content), there, rfl⟩⟩

/-- A node with nothing below it is at most a file itself. -/
theorem mem_files_leaf {node : DirectoryTree}
    (own : node.files = (node.content?.map fun content => ([], content)).toList)
    (noneBelow : ∀ name below, node.at? (name :: below) = none)
    {path : List Text} {content : Reading} :
    (path, content) ∈ node.files ↔
      ∃ found, node.at? path = some found ∧ found.content? = some content := by
  rw [own]
  cases path with
  | nil => cases shape : node.content? <;> simp [at?, shape, eq_comm]
  | cons name below => cases node.content? <;> simp [noneBelow]

/-- The files of a tree are what stands at its paths and can be read. -/
theorem mem_files_iff (tree : DirectoryTree) (path : List Text) (content : Reading) :
    (path, content) ∈ tree.files ↔
      ∃ node, tree.at? path = some node ∧ node.content? = some content := by
  induction tree generalizing path with
  | file own => exact mem_files_leaf rfl fun _ _ => rfl
  | link target => cases target <;> exact mem_files_leaf rfl fun _ _ => rfl
  | special => exact mem_files_leaf rfl fun _ _ => rfl
  | directory names distinct proper child inductionHypothesis =>
      rw [mem_files_directory]
      cases path with
      | nil => simp [at?, content?]
      | cons name below =>
          rw [at?]
          constructor
          · rintro ⟨_, member, _, same, there⟩
            obtain ⟨rfl, rfl⟩ := List.cons.inj same
            rw [if_pos member]
            exact (inductionHypothesis name below).1 there
          · rintro ⟨node, found, own⟩
            by_cases member : name ∈ names
            · rw [if_pos member] at found
              exact ⟨name, member, below, rfl, (inductionHypothesis name below).2 ⟨node, found, own⟩⟩
            · rw [if_neg member] at found
              exact absurd found (by simp)

/-- The files of a tree come in the order of their paths. -/
theorem files_pairwise (tree : DirectoryTree) :
    (tree.files.map Prod.fst).Pairwise Path.Precedes := by
  induction tree with
  | file content => exact List.pairwise_singleton _ _
  | link target => cases target <;> simp [files]
  | special => exact List.Pairwise.nil
  | directory names distinct proper child inductionHypothesis =>
      rw [files, List.map_flatMap, List.pairwise_flatMap]
      constructor
      -- Below one name the children decide, below two the names do.
      · intro name _
        rw [List.map_map]
        have below := inductionHypothesis name
        rw [List.pairwise_map] at below ⊢
        exact below.imp Path.precedes_cons_same
      · refine (sortedNames_pairwise distinct).imp ?_
        intro earlier later before left inEarlier right inLater
        rw [List.map_map] at inEarlier inLater
        obtain ⟨leftFile, _, rfl⟩ := List.mem_map.1 inEarlier
        obtain ⟨rightFile, _, rfl⟩ := List.mem_map.1 inLater
        exact Path.precedes_cons_of_lt _ _ before

end DirectoryTree

end DocSamples
