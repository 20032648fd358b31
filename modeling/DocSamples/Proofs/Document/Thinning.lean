import DocSamples.Proofs.Document.Places
import DocSamples.Proofs.Machine.Thinning

/-!
Contract: the documents of a walk while regular files are overwritten and removed.

Owns:
- what it means that a stream follows a list of places through such changes;
- the step: what one look leaves of the places; the whole: the answers to all requests;
- opening a path whose files change.

A walk lists a directory when it comes upon it, and looks at a file of the listing only when
it gets there.  The two worlds may differ, but only by files that are gone: so the places of
the later world are those of the earlier that still lead to a file, in the same order.
-/

namespace DocSamples

variable {World : Type}

/-! ## Streams that follow places -/

/-- Whether a stream finds its documents at the given places, as far as they are present when
it looks, if from a world on regular files are only overwritten and removed. -/
def Documents.Follows (host : Host World) : Documents World → World → List Text → Prop
  | .done, world, places => host.present world places = []
  | .look visit rest, world, places =>
    ∀ later, host.Thins world later →
      host.Same later (visit later).2 ∧
        match (visit later).1 with
        | none => (rest later).Follows host later places
        | some item => ∃ place left, host.present later places = place :: left ∧
            item = host.readDocument place later ∧ (rest later).Follows host later left

namespace Host

variable {host : Host World}

/-- Places that are not present do not matter. -/
theorem follows_congr {stream : Documents World} {world : World} {left right : List Text}
    (same : host.present world left = host.present world right)
    (follows : stream.Follows host world left) : stream.Follows host world right := by
  induction stream generalizing world with
  | done => exact same.symm.trans follows
  | look visit rest inductionHypothesis =>
      intro later thins
      have sameLater : host.present later left = host.present later right := by
        rw [← present_present thins left, ← present_present thins right, same]
      obtain ⟨kept, given⟩ := follows later thins
      refine ⟨kept, ?_⟩
      rcases looked : (visit later).1 with _ | item
      · rw [looked] at given
        exact inductionHypothesis later sameLater given
      · rw [looked] at given
        rw [← sameLater]
        exact given

theorem follows_later {stream : Documents World} {world later : World} {places : List Text}
    (follows : stream.Follows host world places) (thins : host.Thins world later) :
    stream.Follows host later places := by
  cases stream with
  | done =>
      show host.present later places = []
      have none : host.present world places = [] := follows
      rw [← present_present thins, none]
      rfl
  | look visit rest => exact fun last further => follows last (thins.trans further)

theorem same_log (apart : host.LogsApart) (level : LogLevel) (text : Text) (world : World) :
    host.Same world (host.log level text world) :=
  ⟨fun path => apart.lstat_log level text path world,
    fun path => apart.stat_log level text path world,
    fun path => apart.list_log level text path world,
    fun path => apart.read_log level text path world⟩

private theorem same_visitEntry (apart : host.LogsApart) (entry : WalkEntry) (world : World) :
    host.Same world (host.visitEntry entry world).2 := by
  rcases host.visitEntry_snd entry world with same | ⟨level, text, logged⟩
  · rw [same]
    exact Files.Same.refl world
  · rw [logged]
    exact same_log apart level text world

/-- The step: a look at an entry takes its place from the front, whether or not a document is
still there. -/
theorem follows_visit (apart : host.LogsApart) {entry : WalkEntry} {world : World}
    {rest : World → Documents World} {places : List Text}
    (goesOn : ∀ later, host.Thins world later → (rest later).Follows host later places) :
    (Documents.look (host.visitEntry entry) rest).Follows host world
      (host.ownPlace entry world ++ places) := by
  intro later thins
  refine ⟨same_visitEntry apart entry later, ?_⟩
  have own := present_ownPlace thins entry
  have front : host.present later (host.ownPlace entry world ++ places) =
      host.ownPlace entry later ++ host.present later places := by
    rw [present_append, own]
  have rest := goesOn later thins
  unfold visitEntry
  unfold ownPlace at front
  cases here : host.isFile entry.path later && isDocumentName entry.name with
  | true =>
      rw [here] at front
      refine ⟨entry.path, host.present later places, front, rfl, follows_congr ?_ rest⟩
      rw [present_present (Files.Thins.refl later)]
  | false =>
      rw [here] at front
      exact follows_congr front.symm rest

private theorem follows_skip (apart : host.LogsApart) {path : Text} {cause : SystemError}
    {rest : Documents World} {world : World} {places : List Text}
    (goesOn : rest.Follows host world places) :
    (host.skip path cause rest).Follows host world places := by
  intro later thins
  exact ⟨same_log apart _ _ _, follows_later goesOn thins⟩

private theorem follows_children {depth : Nat} {world : World}
    (walks : ∀ (entry : WalkEntry) (rest : Documents World) (left : List Text),
      rest.Follows host world left →
        (host.walk depth entry rest).Follows host world (host.places depth entry world ++ left))
    (entry : WalkEntry) (children : List DirectoryEntry) {rest : Documents World}
    {left : List Text} (goesOn : rest.Follows host world left) :
    (children.foldr (fun child later => host.walk depth (entry.child child) later) rest).Follows
      host world
      (children.flatMap (fun child => host.places depth (entry.child child) world) ++ left) := by
  induction children with
  | nil => exact goesOn
  | cons child children inductionHypothesis =>
      rw [List.foldr_cons, List.flatMap_cons, List.append_assoc]
      exact walks _ _ _ inductionHypothesis

/-- A walk follows the places that it finds, and then those of the stream that comes after. -/
theorem follows_walk (apart : host.LogsApart) {world : World} (named : host.ListsNames world)
    (depth : Nat) (entry : WalkEntry) {rest : Documents World} {left : List Text}
    (goesOn : rest.Follows host world left) :
    (host.walk depth entry rest).Follows host world (host.places depth entry world ++ left) := by
  induction depth generalizing entry rest left world with
  | zero => exact follows_visit apart fun later thins => follows_later goesOn thins
  | succ depth inductionHypothesis =>
      rw [places, List.append_assoc]
      refine follows_visit apart fun later thins => ?_
      have goesOnLater := follows_later goesOn thins
      -- The children are those of the later world, where the directory is listed.
      have below := present_placesBelow named thins
        (fun child => present_places named thins depth child)
        (fun child leaf => places_of_leaf leaf depth world) entry
      have enough : ∀ stream : Documents World,
          stream.Follows host later
            (host.placesBelow (fun child => host.places depth child later) entry later ++ left) →
          stream.Follows host later
            (host.placesBelow (fun child => host.places depth child world) entry world ++ left) := by
        intro stream follows
        refine follows_congr ?_ follows
        rw [present_append, present_append, below, present_present (Files.Thins.refl later)]
      apply enough
      unfold placesBelow
      cases entry.isDirectory with
      | false => exact goesOnLater
      | true =>
          simp only [↓reduceIte]
          cases host.list entry.path later with
          | error cause => exact follows_skip apart goesOnLater
          | ok entries =>
              exact follows_children
                (fun child rest left follows =>
                  inductionHypothesis (thins.listsNames named) child follows)
                entry (sortEntries entries) goesOnLater

private theorem follows_walkRoot (apart : host.LogsApart) {world : World}
    (named : host.ListsNames world) (root : Text) :
    (host.walkRoot root).Follows host world (host.rootPlaces root world) := by
  intro later thins
  have shape := present_rootPlaces named thins root
  have enough : ∀ stream : Documents World,
      stream.Follows host later (host.rootPlaces root later) →
        stream.Follows host later (host.rootPlaces root world) := by
    intro stream follows
    refine follows_congr ?_ follows
    rw [shape, present_present (Files.Thins.refl later)]
  unfold rootPlaces at enough
  cases rootKind : host.rootIsDirectory root later with
  | error cause =>
      simp only [rootKind] at enough ⊢
      exact ⟨same_log apart _ _ _, enough .done rfl⟩
  | ok isDirectory =>
      simp only [rootKind] at enough ⊢
      refine ⟨Files.Same.refl later, enough _ ?_⟩
      rw [← List.append_nil (host.places _ _ _)]
      exact follows_walk apart (thins.listsNames named) maximalDepth _ rfl

/-! ## The answers to requests -/

/-- The step: a request is answered for the first place that is present, and the others are
left. -/
theorem next_of_follows {stream : Documents World} {world later : World} {places : List Text}
    (follows : stream.Follows host world places) (thins : host.Thins world later) :
    host.Same later (stream.next later).2.1 ∧
      (stream.next later).1 =
        (host.present later places).head?.map (fun place => host.readDocument place later) ∧
      (stream.next later).2.2.Follows host (stream.next later).2.1
        (host.present later places).tail := by
  induction stream generalizing world later places with
  | done =>
      have none : host.present later places = [] := follows_later follows thins
      rw [none]
      exact ⟨Files.Same.refl later, rfl, rfl⟩
  | look visit rest inductionHypothesis =>
      obtain ⟨kept, given⟩ := follows later thins
      rcases looked : visit later with ⟨item?, after⟩
      rw [looked] at kept given
      cases item? with
      | none =>
          -- The stream looks on in a world whose files are the same.
          obtain ⟨keptOn, answered, left⟩ := inductionHypothesis later given kept.thins
          have sameRead : ∀ place, host.readDocument place after = host.readDocument place later := by
            intro place
            unfold readDocument
            rw [kept.read]
          simp only [Documents.next, looked]
          rw [present_of_same kept] at answered left
          simp only [sameRead] at answered
          exact ⟨kept.trans keptOn, answered, left⟩
      | some item =>
          obtain ⟨place, left, shape, rfl, goesOn⟩ := given
          simp only [Documents.next, looked]
          rw [shape]
          exact ⟨kept, rfl, follows_later goesOn kept.thins⟩

private theorem readAll_of_follows {stream : Documents World} {world : World} {places : List Text}
    (follows : stream.Follows host world places) :
    (stream.readAll world).1 =
      (host.present world places).map fun place => host.readDocument place world := by
  induction stream generalizing world places with
  | done =>
      have none : host.present world places = [] := follows
      rw [none]
      rfl
  | look visit rest inductionHypothesis =>
      obtain ⟨kept, given⟩ := follows world (Files.Thins.refl world)
      rcases looked : visit world with ⟨item?, after⟩
      rw [looked] at kept given
      have sameRead : ∀ place, host.readDocument place after = host.readDocument place world := by
        intro place
        unfold readDocument
        rw [kept.read]
      cases item? with
      | none =>
          simp only [Documents.readAll, looked]
          rw [inductionHypothesis world (follows_later given kept.thins), present_of_same kept]
          simp only [sameRead]
      | some item =>
          obtain ⟨place, left, shape, rfl, goesOn⟩ := given
          have allPresent : host.present world left = left := by
            have whole : host.present world (place :: left) = place :: left := by
              rw [← shape, present_present (Files.Thins.refl world)]
            exact List.filter_eq_self.2 fun other member =>
              List.filter_eq_self.1 whole other (List.mem_cons_of_mem _ member)
          simp only [Documents.readAll, looked]
          rw [inductionHypothesis world (follows_later goesOn kept.thins), present_of_same kept,
            shape, allPresent]
          simp only [sameRead, List.map_cons]

end Host

def Fetched.place : Fetched → Text
  | .ok document => document.name
  | .error (.missingRoot path) | .error (.unreadable path _) => path
  | .error (.notFetched _ name _) => name

/-- Whether requests to a stream are made in the given worlds, in which one arrives from a
given world by steps between the requests. -/
def Documents.AskedAmid (step : World → World → Prop) :
    Documents World → World → List World → Prop
  | _, _, [] => True
  | stream, world, asked :: later =>
    Relation.ReflTransGen step world asked ∧
      (stream.next asked).2.2.AskedAmid step (stream.next asked).2.1 later

namespace Host

variable (host : Host World)

/-- The answers to requests that are made in the given worlds, by the places of the
documents: each passes over the places at which there is no file any more, and is answered
with what is read at the next. -/
def answersOver : List Text → List World → List (Option Fetched)
  | _, [] => []
  | places, world :: worlds =>
    let left := places.dropWhile fun place => !host.isFile place world
    left.head?.map (fun place => host.readDocument place world) ::
      answersOver left.tail worlds

/-- Behind the places that are passed over stands the first that is present. -/
theorem dropWhile_present (world : World) (places : List Text) :
    let left := places.dropWhile fun place => !host.isFile place world
    left.head? = (host.present world places).head? ∧
      host.present world left.tail = (host.present world places).tail := by
  induction places with
  | nil => exact ⟨rfl, rfl⟩
  | cons place places inductionHypothesis =>
      cases there : host.isFile place world with
      | true => simp [present, there]
      | false =>
          simp only [List.dropWhile_cons, there, Bool.not_false, ↓reduceIte, present,
            Bool.false_eq_true, not_false_eq_true, List.filter_cons_of_neg]
          exact inductionHypothesis

variable {host}

theorem place_readDocument (place : Text) (world : World) :
    Fetched.place (host.readDocument place world) = place := by
  unfold readDocument
  cases host.read place world with
  | error cause => rfl
  | ok bytes => rfl

/-- The whole: the requests are answered over the places that the stream follows. -/
theorem askEach_of_follows {stream : Documents World} {world : World} {places : List Text}
    {worlds : List World} (follows : stream.Follows host world places)
    (amid : stream.AskedAmid host.Thins world worlds) :
    (stream.askEach worlds).map Prod.fst = host.answersOver places worlds := by
  induction worlds generalizing stream world places with
  | nil => rfl
  | cons asked later inductionHypothesis =>
      obtain ⟨steps, amidLater⟩ := amid
      obtain ⟨same, answered, left⟩ :=
        next_of_follows follows (Files.thins_of_reflTransGen steps)
      obtain ⟨sameHead, sameTail⟩ := host.dropWhile_present asked places
      rw [Documents.askEach, List.map_cons, answersOver, answered, sameHead]
      congr 1
      refine inductionHypothesis (follows_congr ?_ left) amidLater
      rw [present_of_same same, present_of_same same, sameTail]
      have present : ∀ place ∈ (host.present asked places).tail, host.isFile place asked = true :=
        fun place member => (List.mem_filter.1 (List.mem_of_mem_tail member)).2
      exact List.filter_eq_self.2 present

/-- Nothing is given out of order, and nothing twice. -/
theorem places_answersOver (places : List Text) (worlds : List World) :
    (((host.answersOver places worlds).filterMap id).map Fetched.place).Sublist places := by
  induction worlds generalizing places with
  | nil => exact List.nil_sublist places
  | cons world worlds inductionHypothesis =>
      rw [answersOver]
      have passed := List.dropWhile_sublist (fun place => !host.isFile place world) (l := places)
      rcases shape : places.dropWhile (fun place => !host.isFile place world) with _ | ⟨place, left⟩
      · rw [shape] at passed
        exact (inductionHypothesis []).trans passed
      · rw [shape] at passed
        have given : ((some (host.readDocument place world) ::
            host.answersOver left worlds).filterMap id).map Fetched.place =
              place :: ((host.answersOver left worlds).filterMap id).map Fetched.place := by
          simp [place_readDocument]
        dsimp only [List.head?_cons, Option.map_some, List.tail_cons]
        rw [given]
        exact ((inductionHypothesis left).cons_cons place).trans passed

private theorem place_readAll_of_shows (apart : host.LogsApart) {tree : DirectoryTree} {root : Text}
    {world : World} (isDirectory : tree.kind = .directory)
    (shown : host.Shows world tree root) :
    ((host.walkRoot root).readAll world).1.map Fetched.place =
      tree.documents.map fun document => Path.join root (joinWith '/' document.1) := by
  have steady : host.Steady (fun later => host.Shows later tree root) tree root :=
    ⟨fun _ holds => holds, fun level text _ holds => apart.shows_log level text holds⟩
  obtain ⟨name, yields⟩ := yields_walkRoot apart steady isDirectory
  rw [DirectoryTree.items_eq_documents isDirectory] at yields
  have placed : ∀ path reading, Fetched.place (fetchedFrom path reading) = path := by
    intro path reading
    cases reading with
    | error cause => rfl
    | ok bytes => rfl
  rw [Documents.readAll_of_yields yields shown, List.map_map]
  simp only [Function.comp_def, placed]

/-- **The documents of a path whose files change.**  The stream that a path opens is read
request by request.  Between the requests, regular files may be overwritten and removed, any
number of them, as long as nothing else is done.  Then the answers are those over the places
at which the stream would find its documents if nothing changed: each request passes over
the places at which there is no file any more, and is answered with what is read at the next
in the world of that request.  So nothing is given out of order, and nothing twice.  If the
path leads to a directory that shows a tree, the places are those of its documents. -/
theorem openSource_thinning (apart : host.LogsApart) {root : Text} {world : World}
    (named : host.ListsNames world) (there : host.pathExists root world = true) :
    ∃ stream, host.openSource (.path root) world = (.ok (.documents stream), world) ∧
      let static := (stream.readAll world).1.map Fetched.place
      static.Nodup ∧
      (∀ tree, tree.kind = .directory → host.Shows world tree root →
        static = if isStandardInput root then [] else
          tree.documents.map fun document => Path.join root (joinWith '/' document.1)) ∧
      ∀ worlds, stream.AskedAmid host.Thins world worlds →
        (stream.askEach worlds).map Prod.fst = host.answersOver static worlds ∧
          (((stream.askEach worlds).filterMap Prod.fst).map Fetched.place).Sublist static := by
  refine ⟨_, host.openSource_of_exists there, ?_⟩
  intro static
  have follows : (if isStandardInput root then .done else host.walkRoot root).Follows host world
      (if isStandardInput root then [] else host.rootPlaces root world) := by
    split
    · rfl
    · exact follows_walkRoot apart named root
  have present : host.present world (host.rootPlaces root world) = host.rootPlaces root world :=
    (present_rootPlaces named (Files.Thins.refl world) root).symm
  have staticEq : static = if isStandardInput root then [] else host.rootPlaces root world := by
    simp only [static, readAll_of_follows follows, List.map_map, Function.comp_def,
      place_readDocument, List.map_id']
    split
    · rfl
    · exact present
  have answers : ∀ worlds, Documents.AskedAmid host.Thins
      (if isStandardInput root then .done else host.walkRoot root) world worlds →
        (Documents.askEach (if isStandardInput root then .done else host.walkRoot root)
          worlds).map Prod.fst = host.answersOver static worlds := by
    intro worlds amid
    rw [staticEq]
    exact askEach_of_follows follows amid
  refine ⟨?_, ?_, fun worlds amid => ⟨answers worlds amid, ?_⟩⟩
  · rw [staticEq]
    split
    · exact List.nodup_nil
    · exact nodup_rootPlaces named root
  · intro tree isDirectory shown
    simp only [static]
    split
    · rfl
    · exact place_readAll_of_shows apart isDirectory shown
  · have given : ∀ answered : List (Option Fetched × World),
        answered.filterMap Prod.fst = (answered.map Prod.fst).filterMap id := by
      intro answered
      rw [List.filterMap_map]
      rfl
    rw [given, answers worlds amid]
    exact places_answersOver static worlds

end Host

/-! ## A run on a machine -/

/-- A machine with three documents and a link to the last of them. -/
def Machine.withGuide : Machine where
  tree := ⟨[(["docs".toList], .directory),
    (["docs".toList, "a.md".toList], .file (Utf8.encode "A\n".toList) false),
    (["docs".toList, "b.md".toList], .file (Utf8.encode "B\n".toList) false),
    (["docs".toList, "c.md".toList], .file (Utf8.encode "C\n".toList) false),
    (["docs".toList, "link.md".toList], .link "c.md".toList)]⟩
  workingDirectory := []
  searchPath := []

/-- The machine after its first document has been read. -/
def Machine.guideRead : Machine :=
  { Machine.withGuide with records := [(.trace, "Reading docs/a.md".toList)] }

/-- Its second document is overwritten. -/
def Machine.guideRewritten : Machine :=
  { Machine.guideRead with
    tree := Machine.guideRead.tree.set ["docs".toList, "b.md".toList]
      (.file (Utf8.encode "new\n".toList) false) }

def Machine.guideThinned : Machine :=
  { Machine.guideRewritten with
    tree := Machine.guideRewritten.tree.remove ["docs".toList, "c.md".toList] }

/-- The walk through entries of its directory. -/
def Machine.guideWalk (entries : List DirectoryEntry) : Documents Machine :=
  entries.foldr (fun entry later =>
    Machine.host.walk 4095 ((WalkEntry.ofRoot "docs".toList true).child entry) later) .done

private theorem Machine.sortEntries_withGuide :
    sortEntries (Machine.withGuide.tree.entries ["docs".toList]) =
      Machine.withGuide.tree.entries ["docs".toList] :=
  List.mergeSort_of_pairwise (by decide)

private theorem Machine.walkRoot_withGuide :
    (Machine.host.walkRoot "docs".toList).next .withGuide =
        (Machine.guideWalk (Machine.withGuide.tree.entries ["docs".toList])).next .withGuide ∧
      (Machine.host.walkRoot "docs".toList).readAll .withGuide =
        (Machine.guideWalk (Machine.withGuide.tree.entries ["docs".toList])).readAll
          .withGuide := by
  rw [← Machine.sortEntries_withGuide]
  exact ⟨rfl, rfl⟩

theorem Machine.tidy_withGuide : Machine.withGuide.tree.Tidy :=
  ⟨by decide, by decide⟩

private theorem Machine.thins_guide : Machine.host.Thins .guideRead .guideThinned := by
  have second : Machine.guideRead.tree.node? ["docs".toList, "b.md".toList] =
      some (.file (Utf8.encode "B\n".toList) false) := rfl
  have third : Machine.guideRewritten.tree.node? ["docs".toList, "c.md".toList] =
      some (.file (Utf8.encode "C\n".toList) false) := rfl
  have overwritten : Machine.FileStep .guideRead .guideRewritten :=
    ⟨_, .overwrite second rfl rfl, rfl⟩
  have removed : Machine.FileStep .guideRewritten .guideThinned :=
    ⟨_, .remove third rfl (by decide), rfl⟩
  have tidy : Machine.guideRead.tree.Tidy := Machine.tidy_withGuide
  exact (Machine.thins_of_fileSteps tidy (.tail (.single overwritten) removed)).1

/-- The second document is given as it has become, and neither the third nor the link that has
led to it. -/
theorem openSource_guide :
    ∃ stream, Machine.host.openSource (.path "docs".toList) .withGuide =
        (.ok (.documents stream), .withGuide) ∧
      ∃ left, (stream.askEach [.withGuide, .guideThinned, left]).map Prod.fst =
        [some (.ok ⟨"docs/a.md".toList, "A\n".toList⟩),
          some (.ok ⟨"docs/b.md".toList, "new\n".toList⟩), none] := by
  have there : Machine.host.pathExists "docs".toList .withGuide = true := rfl
  obtain ⟨stream, opened, _, _, answers⟩ := Host.openSource_thinning Machine.logsApart
    (Machine.listsNames_of_tidy Machine.tidy_withGuide) there
  have notInput : Host.isStandardInput "docs".toList = false := rfl
  obtain rfl : Machine.host.walkRoot "docs".toList = stream := by
    have openedAs := Machine.host.openSource_of_exists there
    rw [opened, notInput, if_neg Bool.false_ne_true] at openedAs
    exact (Source.documents.inj (Except.ok.inj (congrArg Prod.fst openedAs))).symm
  obtain ⟨next, readAll⟩ := Machine.walkRoot_withGuide
  have first : ((Machine.host.walkRoot "docs".toList).next .withGuide).2.1 = .guideRead := by
    rw [next]
    rfl
  have amid : (Machine.host.walkRoot "docs".toList).AskedAmid Machine.host.Thins .withGuide
      [.withGuide, .guideThinned, (((Machine.host.walkRoot "docs".toList).next
        .withGuide).2.2.next .guideThinned).2.1] := by
    simp only [Documents.AskedAmid, first]
    exact ⟨.refl, .single Machine.thins_guide, .refl, trivial⟩
  refine ⟨_, opened, _, (answers _ amid).1.trans ?_⟩
  rw [readAll, next]
  rfl

end DocSamples
