import DocSamples.Document.Source
import DocSamples.Machine.Basic
import DocSamples.Proofs.Document.Walk
import DocSamples.Proofs.Path.Components

/-!
Contract: the source that a path opens.

Owns:
- the documents of a tree, and the paths under which they are reached from a root;
- opening a path at which something stands, or nothing;
- the documents below a directory, item by item.
-/

namespace DocSamples

variable {World : Type}

/-! ## The documents of a tree -/

namespace DirectoryTree

/-- The documents of a tree, in the order of their paths. -/
def documents (tree : DirectoryTree) : List (List Text × Reading) :=
  tree.files.filter fun file => file.1.getLast?.any isDocumentName

private theorem mem_documents_iff (tree : DirectoryTree) (path : List Text) (content : Reading) :
    (path, content) ∈ tree.documents ↔ tree.HasDocument path content := by
  unfold documents HasDocument
  rw [List.mem_filter, mem_files_iff, Option.any_eq_true]

private theorem documents_pairwise (tree : DirectoryTree) :
    (tree.documents.map Prod.fst).Pairwise Path.Precedes :=
  tree.files_pairwise.sublist (List.filter_sublist.map _)

/-- Below a root that is a directory, the items are those of the documents, each under the
root as it is spelled, joined with the path of the document. -/
theorem items_eq_documents {tree : DirectoryTree} (isDirectory : tree.kind = .directory)
    (root name : Text) :
    tree.items root name = tree.documents.map fun document =>
      fetchedFrom (Path.join root (joinWith '/' document.1)) document.2 := by
  have nonempty : ∀ file ∈ tree.files, file.1 ≠ [] := by
    intro file member
    cases tree with
    | directory names distinct proper child =>
        obtain ⟨first, _, below, same, _⟩ := mem_files_directory.1 member
        rw [same]
        exact List.cons_ne_nil _ _
    | file | link | special => exact absurd isDirectory (by simp [kind])
  have sameName : ∀ file ∈ tree.files,
      isDocumentName (file.1.getLastD name) = file.1.getLast?.any isDocumentName := by
    intro file member
    rw [List.getLast?_eq_some_getLast (nonempty file member),
      List.getLastD_eq_getLast?, List.getLast?_eq_some_getLast (nonempty file member)]
    rfl
  unfold items documents
  rw [List.filter_congr sameName]
  refine List.map_congr_left fun file member => ?_
  have inFiles := (List.mem_filter.1 member).1
  obtain ⟨first, names, shape⟩ := List.exists_cons_of_ne_nil (nonempty file inFiles)
  obtain ⟨node, found, _⟩ := (mem_files_iff tree file.1 file.2).1 inFiles
  have proper := proper_of_at? found
  rw [shape] at proper ⊢
  obtain ⟨named, slashless⟩ := proper first List.mem_cons_self
  rw [List.foldl_cons, Path.foldl_join root named (Path.endsInSlash_of_notMem slashless)
    fun other later => proper other (List.mem_cons_of_mem _ later)]

/-- A directory with a subdirectory, two documents and two links that lead to none: `a/x.md`,
`a.md`, `link.md` and `lost.md`. -/
def nested : DirectoryTree :=
  .directory ["lost.md".toList, "a.md".toList, "link.md".toList, "a".toList] (by decide) (by decide)
    fun
    | ['a'] => .directory ["x.md".toList] (by decide) (by decide) fun _ => .file (.ok [])
    | 'a' :: _ => .file (.ok [])
    | 'l' :: 'i' :: _ => .link .directory
    | _ => .link (.nothing .notFound)

theorem documents_nested :
    nested.documents = [(["a".toList, "x.md".toList], .ok []), (["a.md".toList], .ok [])] := by
  have sorted : ["lost.md".toList, "a.md".toList, "link.md".toList, "a".toList].mergeSort nameLE =
      ["a".toList, "a.md".toList, "link.md".toList, "lost.md".toList] :=
    sortedNames_eq (by decide) (by decide)
  have below : (directory ["x.md".toList] (by decide) (by decide) fun _ => file (.ok [])).files =
      [(["x.md".toList], .ok [])] := by
    rw [files, List.mergeSort_singleton]
    rfl
  have all : nested.files = [(["a".toList, "x.md".toList], .ok []), (["a.md".toList], .ok [])] := by
    rw [nested, files, sorted, List.flatMap_cons]
    show List.map _ (directory ["x.md".toList] _ _ _).files ++ _ = _
    rw [below]
    rfl
  rw [documents, all]
  rfl

/-- The slash comes after the dot as a byte, but the path through the directory comes first. -/
theorem nested_documents_not_pairwise :
    ¬ (nested.documents.map fun document =>
      Utf8.encode (joinWith '/' document.1)).Pairwise (· < ·) := by
  rw [documents_nested]
  decide

def single : DirectoryTree :=
  .directory ["a.md".toList] (by decide) (by decide) fun _ => .file (.ok (Utf8.encode "A\n".toList))

end DirectoryTree

/-! ## Machines -/

/-- Logging does not touch the files of a machine, and a directory is listed only by a path
within the limit. -/
theorem Machine.logsApart : Machine.host.LogsApart where
  list_short path machine entries listed := by
    apply Decidable.byContradiction
    intro long
    have tooLong : FileTree.pathLimit < (Utf8.encode path).length := by
      unfold Host.maximalDepth at long
      unfold FileTree.pathLimit
      omega
    have refused : ∀ place,
        machine.tree.locate true machine.workingDirectory path ≠ .ok place := by
      intro place
      unfold FileTree.locate
      rw [if_pos tooLong]
      split
      · nofun
      · split <;> nofun
    change machine.tree.listAt machine.workingDirectory path = .ok entries at listed
    unfold FileTree.listAt at listed
    split at listed
    next => exact absurd listed (by nofun)
    next located => exact absurd located (refused _)
    next located => exact absurd located (refused _)
    next located => exact absurd located (refused _)
  lstat_log _ _ _ _ := rfl
  stat_log _ _ _ _ := rfl
  list_log _ _ _ _ := rfl
  read_log _ _ _ _ := rfl

def Machine.withNested : Machine where
  tree := ⟨[(["docs".toList], .directory), (["docs".toList, "a.md".toList], .file [] false),
    (["docs".toList, "a".toList], .directory),
    (["docs".toList, "a".toList, "x.md".toList], .file [] false),
    (["docs".toList, "link.md".toList], .link "a".toList),
    (["docs".toList, "lost.md".toList], .link "none".toList)]⟩
  workingDirectory := []
  searchPath := []

private theorem Machine.shows_nested : Machine.host.Shows .withNested .nested "docs".toList := by
  refine ⟨rfl, rfl, ⟨_, rfl, by decide⟩, ?_⟩
  intro name member
  have cases := member
  simp only [List.mem_cons, List.not_mem_nil, or_false] at cases
  rcases cases with rfl | rfl | rfl | rfl
  · exact ⟨rfl, rfl⟩
  · exact ⟨rfl, rfl, rfl⟩
  · exact ⟨rfl, rfl⟩
  · refine ⟨rfl, rfl, ⟨_, rfl, by decide⟩, ?_⟩
    intro name member
    obtain rfl := List.mem_singleton.1 member
    exact ⟨rfl, rfl, rfl⟩

/-- A machine that shows the tree `DirectoryTree.single` under a name that stands for standard
input. -/
def Machine.withDash : Machine where
  tree := ⟨[(["-".toList], .directory),
    (["-".toList, "a.md".toList], .file (Utf8.encode "A\n".toList) false)]⟩
  workingDirectory := []
  searchPath := []

private theorem Machine.shows_single : Machine.host.Shows .withDash .single "-".toList := by
  refine ⟨rfl, rfl, ⟨_, rfl, by decide⟩, ?_⟩
  intro name member
  obtain rfl := List.mem_singleton.1 member
  exact ⟨rfl, rfl, rfl⟩

/-! ## Opening a path as a source -/

namespace Host

/-- A path at which something stands opens as a stream. -/
theorem openSource_of_exists (host : Host World) {root : Text} {world : World}
    (there : host.pathExists root world = true) :
    host.openSource (.path root) world =
      (.ok (.documents (if isStandardInput root then .done else host.walkRoot root)), world) := by
  simp [openSource, documentsBelow, there]

/-- A path at which nothing stands does not open. -/
theorem openSource_of_missing (host : Host World) {root : Text} {world : World}
    (missing : host.pathExists root world = false) :
    host.openSource (.path root) world = (.error (.missingRoot root), world) := by
  simp [openSource, documentsBelow, missing]

/-- **The documents below a directory.**  As long as the system shows the same tree at a
root, the stream gives one item for each document of the tree, in the order of the paths
from the root: what the document decodes to, or the error of reading it, under the root as
it is spelled, joined with the path.  Nothing else is given, and nothing at all if the root
is spelled as standard input is.  There is a tree whose documents do not come in the order
of their paths as strings. -/
theorem openSource_directory {host : Host World} (apart : host.LogsApart)
    {tree : DirectoryTree} {root : Text} {world : World} (isDirectory : tree.kind = .directory)
    (shown : host.Shows world tree root) :
    let items := if isStandardInput root then [] else
      tree.documents.map fun document =>
        fetchedFrom (Path.join root (joinWith '/' document.1)) document.2
    (∃ stream, host.openSource (.path root) world = (.ok (.documents stream), world) ∧
      stream.Yields (fun world => host.Shows world tree root) items ∧
      (stream.readAll world).1 = items) ∧
    (∀ path content, (path, content) ∈ tree.documents ↔ tree.HasDocument path content) ∧
    (tree.documents.map Prod.fst).Pairwise Path.Precedes ∧
    ∃ other : DirectoryTree, ¬ (other.documents.map fun document =>
      Utf8.encode (joinWith '/' document.1)).Pairwise (· < ·) := by
  intro items
  have there : host.pathExists root world = true := by
    cases tree with
    | directory names distinct proper child =>
        unfold Files.pathExists
        rw [shown.2.1]
        rfl
    | file | link | special => exact absurd isDirectory (by simp [DirectoryTree.kind])
  have yields : (if isStandardInput root then .done else host.walkRoot root).Yields
      (fun world => host.Shows world tree root) items := by
    cases notFiles : isStandardInput root with
    | true => simp [items, notFiles, Documents.Yields]
    | false =>
        have steady : host.Steady (fun world => host.Shows world tree root) tree root :=
          ⟨fun _ holds => holds, fun level text _ holds => apart.shows_log level text holds⟩
        obtain ⟨name, yields⟩ := yields_walkRoot apart steady isDirectory
        rw [DirectoryTree.items_eq_documents isDirectory] at yields
        simpa [items, notFiles] using yields
  exact ⟨⟨_, host.openSource_of_exists there, yields, Documents.readAll_of_yields yields shown⟩,
    tree.mem_documents_iff, tree.documents_pairwise, .nested,
    DirectoryTree.nested_documents_not_pairwise⟩

end Host

/-- Of a directory with two documents and two links that lead to none, the documents are
given. -/
theorem openSource_nested :
    ∃ stream, Machine.host.openSource (.path "docs".toList) .withNested =
        (.ok (.documents stream), .withNested) ∧
      (stream.readAll .withNested).1 =
        [.ok ⟨"docs/a/x.md".toList, []⟩, .ok ⟨"docs/a.md".toList, []⟩] := by
  obtain ⟨⟨stream, opened, _, read⟩, _⟩ :=
    Host.openSource_directory Machine.logsApart rfl Machine.shows_nested
  refine ⟨stream, opened, ?_⟩
  rw [read, DirectoryTree.documents_nested]
  rfl

/-- A directory whose name stands for standard input gives no document, though it shows one. -/
theorem openSource_dash :
    Machine.host.Shows .withDash .single "-".toList ∧
    DirectoryTree.single.HasDocument ["a.md".toList] (.ok (Utf8.encode "A\n".toList)) ∧
    Machine.host.openSource (.path "-".toList) .withDash =
      (.ok (.documents .done), .withDash) := by
  refine ⟨Machine.shows_single, ?_, ?_⟩
  · exact ⟨⟨_, rfl, rfl⟩, _, rfl, rfl⟩
  · have there : Machine.host.pathExists "-".toList .withDash = true := rfl
    have notFiles : Host.isStandardInput "-".toList = true := rfl
    rw [Machine.host.openSource_of_exists there, if_pos notFiles]

end DocSamples
