import DocSamples.Document.Source
import DocSamples.Machine.Basic
import DocSamples.Proofs.Document.Tree

/-!
Contract: the documents that a walk of a directory gives.

Owns:
- what it means that a stream gives a list of items, in whatever worlds it looks
  (`Documents.Yields`);
- what it means that a system shows a tree at a path, and what a walk relies on besides;
- the step: what a look at one entry gives;
- the walk of a tree, by induction on the tree.

Does not own: the order of paths (`Proofs/Document/Tree`), or what a source is opened for
(`Proofs/Document/Opening`).

A stream looks when it is asked for a document, and anything may happen between two of its
looks.  A tree that does not change is one that is shown in each world in which a look is
made.
-/

namespace DocSamples

variable {World : Type}

/-! ## What a stream gives -/

namespace Documents

/-- Whether a stream gives exactly the items of a list, in order, if it looks only in worlds
with a property; its own looks keep that property. -/
def Yields (property : World → Prop) : Documents World → List Fetched → Prop
  | .done, items => items = []
  | .look visit rest, items =>
    ∀ world, property world →
      property (visit world).2 ∧
        match (visit world).1 with
        | none => (rest world).Yields property items
        | some item => ∃ later, items = item :: later ∧ (rest world).Yields property later

/-- Read to its end at once, such a stream gives the items. -/
theorem readAll_of_yields {property : World → Prop} {stream : Documents World}
    {items : List Fetched} {world : World} (yields : stream.Yields property items)
    (holds : property world) : (stream.readAll world).1 = items := by
  induction stream generalizing items world with
  | done => exact yields.symm
  | look visit rest inductionHypothesis =>
      obtain ⟨kept, given⟩ := yields world holds
      rcases looked : visit world with ⟨item?, after⟩
      rw [looked] at kept given
      cases item? with
      | none =>
          simp only [readAll, looked]
          exact inductionHypothesis world given kept
      | some item =>
          obtain ⟨later, rfl, goesOn⟩ := given
          simp only [readAll, looked]
          rw [inductionHypothesis world goesOn kept]

end Documents

/-! ## What a system shows -/

/-- Whether files are as a tree says, from a path on.  Directories can be listed, in any
order. -/
def Files.Shows (files : Files World) (world : World) : DirectoryTree → (path : Text) → Prop
  | .file content, path =>
    files.lstat path world = .ok .file ∧ files.stat path world = .ok .file ∧
      files.read path world = content
  | .link target, path =>
    files.lstat path world = .ok .link ∧
      match target with
      | .file content => files.stat path world = .ok .file ∧ files.read path world = content
      | .directory => files.stat path world = .ok .directory
      | .special => files.stat path world = .ok .special
      | .nothing cause => files.stat path world = .error cause
  | .special, path =>
    files.lstat path world = .ok .special ∧ files.stat path world = .ok .special
  | .directory names _ _ child, path =>
    files.lstat path world = .ok .directory ∧ files.stat path world = .ok .directory ∧
      (∃ entries, files.list path world = .ok entries ∧
        entries.Perm (names.map fun name => ⟨name, (child name).kind⟩)) ∧
      ∀ name ∈ names, files.Shows world (child name) (Path.join path name)

namespace Host

/-- What a walk relies on besides: a directory can be listed only by a path that is not too
long for the system, and writing to the log leaves all files as they are. -/
structure LogsApart (host : Host World) : Prop where
  list_short : ∀ path world entries, host.list path world = .ok entries →
    (Utf8.encode path).length < maximalDepth
  lstat_log : ∀ level text path world,
    host.lstat path (host.log level text world) = host.lstat path world
  stat_log : ∀ level text path world,
    host.stat path (host.log level text world) = host.stat path world
  list_log : ∀ level text path world,
    host.list path (host.log level text world) = host.list path world
  read_log : ∀ level text path world,
    host.read path (host.log level text world) = host.read path world

theorem LogsApart.shows_log {host : Host World} (apart : host.LogsApart) (level : LogLevel)
    (text : Text) {world : World} {tree : DirectoryTree} {path : Text}
    (shown : host.Shows world tree path) :
    host.Shows (host.log level text world) tree path := by
  induction tree generalizing path with
  | file content =>
      unfold Files.Shows at shown ⊢
      rw [apart.lstat_log, apart.stat_log, apart.read_log]
      exact shown
  | link target =>
      cases target <;>
      · unfold Files.Shows at shown ⊢
        simp only [apart.lstat_log, apart.stat_log, apart.read_log]
        exact shown
  | special =>
      unfold Files.Shows at shown ⊢
      rw [apart.lstat_log, apart.stat_log]
      exact shown
  | directory names distinct proper child inductionHypothesis =>
      unfold Files.Shows at shown ⊢
      rw [apart.lstat_log, apart.stat_log, apart.list_log]
      obtain ⟨itself, leads, listed, below⟩ := shown
      exact ⟨itself, leads, listed, fun name member =>
        inductionHypothesis name (below name member)⟩

end Host

/-! ## Paths and items -/

/-- Joining a name makes a path longer. -/
theorem Path.length_encode_join (path : Text) {name : Text} (nonempty : name ≠ []) :
    (Utf8.encode path).length < (Utf8.encode (Path.join path name)).length := by
  have named := Utf8.encode_length_pos nonempty
  have slashed := Utf8.encode_length_pos (List.cons_ne_nil '/' name)
  unfold Path.join
  split
  · rw [Utf8.encode_append, List.length_append]
    omega
  · rw [Utf8.encode_append, List.length_append]
    omega

/-- The item that stands for a file under the path by which it was reached. -/
def fetchedFrom (path : Text) : Reading → Fetched
  | .ok bytes => .ok ⟨path, Utf8.decode bytes⟩
  | .error cause => .error (.unreadable path cause)

namespace DirectoryTree

/-- The item for a node itself, under the path and the name by which it was reached. -/
def ownItem? (spelled name : Text) (node : DirectoryTree) : Option Fetched :=
  if isDocumentName name then node.content?.map (fetchedFrom spelled) else none

/-- The items for the documents of a tree that stands at a path under a name. -/
def items (spelled name : Text) (tree : DirectoryTree) : List Fetched :=
  (tree.files.filter fun file => isDocumentName (file.1.getLastD name)).map fun file =>
    fetchedFrom (file.1.foldl Path.join spelled) file.2

private theorem items_leaf {node : DirectoryTree}
    (own : node.files = (node.content?.map fun content => ([], content)).toList)
    (spelled name : Text) : node.items spelled name = (node.ownItem? spelled name).toList := by
  unfold items ownItem?
  rw [own]
  cases node.content? with
  | none => simp
  | some content => cases named : isDocumentName name <;> simp [named]

private theorem items_directory {names : List Text} {distinct : names.Nodup}
    {proper : ∀ name ∈ names, name ≠ [] ∧ '/' ∉ name} {child : Text → DirectoryTree}
    (spelled name : Text) :
    (directory names distinct proper child).items spelled name =
      (names.mergeSort nameLE).flatMap fun below =>
        (child below).items (Path.join spelled below) below := by
  unfold items
  rw [files, List.filter_flatMap, List.map_flatMap]
  congr 1
  funext below
  rw [List.filter_map, List.map_map]
  simp only [Function.comp_def, List.getLastD_cons, List.foldl_cons]

end DirectoryTree

namespace Host

variable {host : Host World}

/-- A path leads to a regular file exactly where a tree has something to read, and that is
what is read. -/
theorem isFile_of_shows {world : World} {tree : DirectoryTree} {path : Text}
    (shown : host.Shows world tree path) :
    host.isFile path world = tree.content?.isSome ∧
      ∀ content ∈ tree.content?, host.read path world = content := by
  unfold Files.isFile
  cases tree with
  | file content =>
      obtain ⟨_, leads, reads⟩ := shown
      rw [leads]
      exact ⟨rfl, fun other same => reads.trans (Option.some.inj same)⟩
  | link target =>
      cases target with
      | file content =>
          obtain ⟨_, leads, reads⟩ := shown
          rw [leads]
          exact ⟨rfl, fun other same => reads.trans (Option.some.inj same)⟩
      | directory | special | nothing cause =>
          obtain ⟨_, leads⟩ := shown
          dsimp only at leads
          rw [leads]
          exact ⟨rfl, fun other same => absurd same (by simp [DirectoryTree.content?])⟩
  | special =>
      obtain ⟨_, leads⟩ := shown
      rw [leads]
      exact ⟨rfl, fun other same => absurd same (by simp [DirectoryTree.content?])⟩
  | directory names distinct proper child =>
      obtain ⟨_, leads, _⟩ := shown
      rw [leads]
      exact ⟨rfl, fun other same => absurd same (by simp [DirectoryTree.content?])⟩

/-- A look at an entry gives the item of the node that stands there, if it has one. -/
theorem visitEntry_of_shows {world : World} {tree : DirectoryTree} {entry : WalkEntry}
    (shown : host.Shows world tree entry.path) :
    (host.visitEntry entry world).1 = tree.ownItem? entry.path entry.name := by
  obtain ⟨isFile, reads⟩ := isFile_of_shows shown
  unfold visitEntry DirectoryTree.ownItem?
  rw [isFile]
  cases named : isDocumentName entry.name with
  | false => simp
  | true =>
      cases own : tree.content? with
      | none => simp
      | some content =>
          have read := reads content (by rw [own]; rfl)
          have item : host.readDocument entry.path world = fetchedFrom entry.path content := by
            unfold readDocument
            rw [read]
            cases content with
            | error cause => rfl
            | ok bytes => rfl
          simp [item]

theorem visitEntry_snd (entry : WalkEntry) (world : World) :
    (host.visitEntry entry world).2 = world ∨
      ∃ level text, (host.visitEntry entry world).2 = host.log level text world := by
  unfold visitEntry
  split
  · exact .inr ⟨_, _, rfl⟩
  · exact .inl rfl

/-! ## The walk -/

/-- A property of worlds in which an entry is shown as a tree, and which logging keeps. -/
structure Steady (host : Host World) (property : World → Prop) (tree : DirectoryTree)
    (path : Text) : Prop where
  shows_of : ∀ world, property world → host.Shows world tree path
  log : ∀ level text world, property world → property (host.log level text world)

variable {property : World → Prop}

/-- The step: a look at an entry gives its own item, and then the stream goes on. -/
theorem yields_visit {tree : DirectoryTree} {entry : WalkEntry}
    (steady : host.Steady property tree entry.path) {rest : World → Documents World}
    {items : List Fetched}
    (goesOn : ∀ world, property world → (rest world).Yields property items) :
    (Documents.look (host.visitEntry entry) rest).Yields property
      ((tree.ownItem? entry.path entry.name).toList ++ items) := by
  intro world holds
  constructor
  · rcases host.visitEntry_snd entry world with same | ⟨level, text, logged⟩
    · rw [same]
      exact holds
    · rw [logged]
      exact steady.log level text world holds
  · rw [visitEntry_of_shows (steady.shows_of world holds)]
    cases tree.ownItem? entry.path entry.name with
    | none => exact goesOn world holds
    | some item => exact ⟨items, rfl, goesOn world holds⟩

private theorem yields_walk_leaf {tree : DirectoryTree} {entry : WalkEntry}
    (steady : host.Steady property tree entry.path)
    (own : tree.files = (tree.content?.map fun content => ([], content)).toList)
    (leaf : entry.isDirectory = false) (depth : Nat) {rest : Documents World}
    {later : List Fetched} (goesOn : rest.Yields property later) :
    (host.walk depth entry rest).Yields property
      (tree.items entry.path entry.name ++ later) := by
  rw [DirectoryTree.items_leaf own]
  cases depth with
  | zero => exact yields_visit steady fun _ _ => goesOn
  | succ depth =>
      refine yields_visit steady fun world _ => ?_
      rw [leaf]
      exact goesOn

/-- Walks of entries one after another give their items one after another. -/
theorem yields_children {depth : Nat} {entry : WalkEntry} {child : Text → DirectoryTree}
    {names : List Text}
    (walks : ∀ name ∈ names, ∀ (rest : Documents World) (later : List Fetched),
      rest.Yields property later →
        (host.walk depth (entry.child ⟨name, (child name).kind⟩) rest).Yields property
          ((child name).items (Path.join entry.path name) name ++ later))
    {rest : Documents World} {later : List Fetched} (goesOn : rest.Yields property later) :
    ((names.map fun name => (⟨name, (child name).kind⟩ : DirectoryEntry)).foldr
      (fun child later => host.walk depth (entry.child child) later) rest).Yields property
      (names.flatMap (fun name => (child name).items (Path.join entry.path name) name) ++
        later) := by
  induction names with
  | nil => exact goesOn
  | cons name names inductionHypothesis =>
      have others := inductionHypothesis fun other member =>
        walks other (List.mem_cons_of_mem _ member)
      rw [List.map_cons, List.foldr_cons, List.flatMap_cons, List.append_assoc]
      exact walks name List.mem_cons_self _ _ others

/-- A walk of a tree gives the items of its documents, and then those of the stream that
comes after it.  Each directory is listed by a longer path than the one above it, so the
bound on the depth is not reached. -/
theorem yields_walk (apart : host.LogsApart) {tree : DirectoryTree} {entry : WalkEntry}
    (steady : host.Steady property tree entry.path)
    (listed : entry.isDirectory = (tree.kind == .directory)) {depth : Nat}
    (enough : maximalDepth ≤ depth + (Utf8.encode entry.path).length) {rest : Documents World}
    {later : List Fetched} (goesOn : rest.Yields property later) :
    (host.walk depth entry rest).Yields property
      (tree.items entry.path entry.name ++ later) := by
  induction tree generalizing entry depth rest later with
  | file content => exact yields_walk_leaf steady rfl listed depth goesOn
  | link target => cases target <;> exact yields_walk_leaf steady rfl listed depth goesOn
  | special => exact yields_walk_leaf steady rfl listed depth goesOn
  | directory names distinct proper child inductionHypothesis =>
      have isDirectory : entry.isDirectory = true := listed
      cases depth with
      -- The path of a directory that can be listed is too short for the bound to be used up.
      | zero =>
          intro world holds
          obtain ⟨_, _, ⟨entries, gives, _⟩, _⟩ := steady.shows_of world holds
          have short := apart.list_short entry.path world entries gives
          omega
      | succ depth =>
          -- Each child is a tree of its own, and a name longer than the path that led here.
          have walks : ∀ name ∈ names.mergeSort nameLE,
              ∀ (rest : Documents World) (later : List Fetched), rest.Yields property later →
                (host.walk depth (entry.child ⟨name, (child name).kind⟩) rest).Yields property
                  ((child name).items (Path.join entry.path name) name ++ later) := by
            intro name inSorted rest later goesOn
            have member : name ∈ names :=
              (List.mergeSort_perm names nameLE).mem_iff.1 inSorted
            have steadyChild : host.Steady property (child name)
                (entry.child ⟨name, (child name).kind⟩).path := by
              refine ⟨fun world holds => ?_, steady.log⟩
              obtain ⟨_, _, _, below⟩ := steady.shows_of world holds
              exact below name member
            have longer := Path.length_encode_join entry.path (proper name member).1
            have enoughBelow :
                maximalDepth ≤ depth + (Utf8.encode (Path.join entry.path name)).length := by
              omega
            exact inductionHypothesis name steadyChild rfl enoughBelow goesOn
          -- A directory gives no item itself, whatever its name is.
          have noItem : (DirectoryTree.directory names distinct proper child).ownItem? entry.path
              entry.name = none := by
            simp [DirectoryTree.ownItem?, DirectoryTree.content?]
          rw [← List.nil_append (DirectoryTree.items _ _ _ ++ later), ← Option.toList_none,
            ← noItem]
          refine yields_visit steady fun world holds => ?_
          obtain ⟨_, _, ⟨entries, gives, listing⟩, _⟩ := steady.shows_of world holds
          rw [isDirectory, if_pos rfl, gives, DirectoryTree.items_directory]
          dsimp only
          rw [sortEntries_eq (fun name => (child name).kind) listing]
          exact yields_children walks goesOn

/-- The walk of a root that is a directory gives the items of its documents. -/
theorem yields_walkRoot (apart : host.LogsApart) {tree : DirectoryTree} {root : Text}
    (steady : host.Steady property tree root) (isDirectory : tree.kind = .directory) :
    ∃ name, (host.walkRoot root).Yields property (tree.items root name) := by
  refine ⟨(WalkEntry.ofRoot root true).name, fun world holds => ?_⟩
  have rootKind : host.rootIsDirectory root world = .ok true := by
    have itself : host.lstat root world = .ok .directory := by
      cases tree with
      | directory names distinct proper child => exact (steady.shows_of world holds).1
      | file | link | special => exact absurd isDirectory (by simp [DirectoryTree.kind])
    unfold rootIsDirectory
    rw [itself]
    rfl
  have goesOn : Documents.done.Yields property [] := rfl
  have walked : (host.walk maximalDepth (.ofRoot root true) .done).Yields property
      (tree.items root (WalkEntry.ofRoot root true).name ++ []) :=
    yields_walk apart steady (by rw [isDirectory]; rfl) (Nat.le_add_right _ _) goesOn
  rw [List.append_nil] at walked
  simp only [rootKind]
  exact ⟨holds, walked⟩

end Host

end DocSamples
