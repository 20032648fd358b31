import DocSamples.Proofs.Document.Opening
import DocSamples.Proofs.System.Thinning
import Mathlib.Data.List.Nodup

/-!
Contract: the places at which a walk finds its documents.

Owns:
- the places in one world, by the recursion of the walk;
- that no place is found twice;
- what becomes of the places while regular files are overwritten and removed.

Does not own: the changes themselves (`Proofs/System/Thinning`), or the stream that makes the
walk (`Proofs/Document/Thinning`).
-/

namespace DocSamples

variable {World : Type}

/-! ## Entries that are left out -/

/-- Leaving out what contributes nothing that counts leaves out nothing that counts. -/
theorem filter_flatMap_of_kept {α β : Type} {counts : β → Bool} {kept : α → Bool}
    {parts : α → List β} {members : List α}
    (nothing : ∀ member ∈ members, kept member = false → (parts member).filter counts = []) :
    (members.filter kept).flatMap (fun member => (parts member).filter counts) =
      (members.flatMap parts).filter counts := by
  induction members with
  | nil => rfl
  | cons member members inductionHypothesis =>
      have later := inductionHypothesis fun other inside =>
        nothing other (List.mem_cons_of_mem _ inside)
      rw [List.flatMap_cons, List.filter_append, ← later]
      cases keptOne : kept member with
      | true => rw [List.filter_cons_of_pos keptOne, List.flatMap_cons]
      | false =>
          have here := nothing member List.mem_cons_self keptOne
          rw [List.filter_cons_of_neg (by simp [keptOne]), here, List.nil_append]

/-- Entries of different names, some of them left out, are sorted as before. -/
theorem sortEntries_filter {entries left : List DirectoryEntry} {kept : DirectoryEntry → Bool}
    (distinct : (entries.map DirectoryEntry.name).Nodup) (perm : left.Perm (entries.filter kept)) :
    sortEntries left = (sortEntries entries).filter kept := by
  have sorted : ∀ some : List DirectoryEntry, (sortEntries some).Pairwise fun first second =>
      nameLE first.name second.name = true :=
    List.pairwise_mergeSort
      (fun first second third => nameLE_trans first.name second.name third.name)
      (fun first second => nameLE_total first.name second.name)
  have same : (sortEntries left).Perm ((sortEntries entries).filter kept) :=
    ((List.mergeSort_perm left _).trans perm).trans
      ((List.mergeSort_perm entries _).symm.filter kept)
  have fromEntries : ∀ entry ∈ (sortEntries entries).filter kept, entry ∈ entries := by
    intro entry member
    exact (List.mergeSort_perm entries _).mem_iff.1 (List.mem_filter.1 member).1
  refine List.Perm.eq_of_pairwise ?_ (sorted left) ((sorted entries).filter kept) same
  intro first second inFirst inSecond before after
  exact List.inj_on_of_nodup_map distinct (fromEntries first (same.mem_iff.1 inFirst))
    (fromEntries second inSecond) (nameLE_antisymm before after)

/-- Below a directory, a place tells the name of the entry through which it is reached. -/
theorem Path.eq_of_foldl_join_eq {root first second : Text} {left right : List Text}
    (properFirst : first ≠ [] ∧ '/' ∉ first) (properSecond : second ≠ [] ∧ '/' ∉ second)
    (properLeft : ∀ name ∈ left, name ≠ [] ∧ '/' ∉ name)
    (properRight : ∀ name ∈ right, name ≠ [] ∧ '/' ∉ name)
    (same : left.foldl Path.join (Path.join root first) =
      right.foldl Path.join (Path.join root second)) : first = second := by
  rw [Path.foldl_join root properFirst.1 (Path.endsInSlash_of_notMem properFirst.2) properLeft,
    Path.foldl_join root properSecond.1 (Path.endsInSlash_of_notMem properSecond.2)
      properRight] at same
  have spelled : joinWith '/' (first :: left) = joinWith '/' (second :: right) := by
    unfold Path.join at same
    split at same
    · exact List.append_cancel_left same
    · exact (List.cons.inj (List.append_cancel_left same)).2
  have slashless : ∀ {name : Text} {names : List Text}, '/' ∉ name →
      (∀ other ∈ names, other ≠ [] ∧ '/' ∉ other) → ∀ other ∈ name :: names, '/' ∉ other := by
    intro name names here later other member
    rcases List.mem_cons.1 member with rfl | inside
    · exact here
    · exact (later other inside).2
  have cut := congrArg (splitAt '/') spelled
  rw [splitAt_joinWith '/' (List.cons_ne_nil _ _) (slashless properFirst.2 properLeft),
    splitAt_joinWith '/' (List.cons_ne_nil _ _) (slashless properSecond.2 properRight)] at cut
  exact (List.cons.inj cut).1

namespace Host

variable (host : Host World)

/-! ## The places of documents -/

def ownPlace (entry : WalkEntry) (world : World) : List Text :=
  if host.isFile entry.path world && isDocumentName entry.name then [entry.path] else []

/-- The places below an entry, where those of each child are known. -/
def placesBelow (ofChild : WalkEntry → List Text) (entry : WalkEntry) (world : World) :
    List Text :=
  if entry.isDirectory then
    match host.list entry.path world with
    | .error _ => []
    | .ok entries => (sortEntries entries).flatMap fun child => ofChild (entry.child child)
  else
    []

/-- The places of the documents that a walk finds in a world that does not change. -/
def places : (depth : Nat) → WalkEntry → World → List Text
  | 0, entry, world => host.ownPlace entry world
  | depth + 1, entry, world =>
    host.ownPlace entry world ++
      host.placesBelow (fun child => places depth child world) entry world

def rootPlaces (root : Text) (world : World) : List Text :=
  match host.rootIsDirectory root world with
  | .error _ => []
  | .ok isDirectory => host.places maximalDepth (.ofRoot root isDirectory) world

/-- The places that still lead to a file. -/
def present (world : World) (places : List Text) : List Text :=
  places.filter fun place => host.isFile place world

variable {host}

theorem present_append (world : World) (left right : List Text) :
    host.present world (left ++ right) = host.present world left ++ host.present world right :=
  List.filter_append left right

theorem present_of_same {before after : World} (same : host.Same before after)
    (places : List Text) : host.present after places = host.present before places := by
  unfold present
  exact List.filter_congr fun place _ => same.isFile place

/-- What is present later was present before. -/
theorem present_present {before after : World} (thins : host.Thins before after)
    (places : List Text) :
    host.present after (host.present before places) = host.present after places := by
  unfold present
  rw [List.filter_filter]
  refine List.filter_congr fun place _ => ?_
  cases there : host.isFile place after with
  | true => simp [thins.isFile_before there]
  | false => simp

theorem present_ownPlace {before after : World} (thins : host.Thins before after)
    (entry : WalkEntry) :
    host.ownPlace entry after = host.present after (host.ownPlace entry before) := by
  unfold ownPlace present
  cases there : host.isFile entry.path after with
  | true =>
      rw [thins.isFile_before there]
      cases isDocumentName entry.name <;> simp [there]
  | false =>
      cases host.isFile entry.path before && isDocumentName entry.name <;> simp [there]

theorem ownPlace_of_absent {entry : WalkEntry} {world : World}
    (absent : host.isFile entry.path world = false) : host.ownPlace entry world = [] := by
  unfold ownPlace
  simp [absent]

theorem places_of_leaf {entry : WalkEntry} (leaf : entry.isDirectory = false) (depth : Nat)
    (world : World) : host.places depth entry world = host.ownPlace entry world := by
  cases depth with
  | zero => rfl
  | succ depth => simp [places, placesBelow, leaf]

/-- Below an entry, the places found later are those that would have been found before, as far
as they are present, if this holds of the children. -/
theorem present_placesBelow {before after : World} (named : host.ListsNames before)
    (thins : host.Thins before after) {earlier later : WalkEntry → List Text}
    (ofChild : ∀ child, later child = host.present after (earlier child))
    (ofLeaf : ∀ child, child.isDirectory = false → earlier child = host.ownPlace child before)
    (entry : WalkEntry) :
    host.placesBelow later entry after =
      host.present after (host.placesBelow earlier entry before) := by
  unfold placesBelow
  cases entry.isDirectory with
  | false => rfl
  | true =>
      simp only [↓reduceIte]
      rcases listed : host.list entry.path before with cause | entries
      · obtain ⟨_, refused⟩ := (thins.error_iff entry.path).2 ⟨cause, listed⟩
        rw [refused]
        rfl
      rcases listedAfter : host.list entry.path after with cause | left
      · obtain ⟨_, refused⟩ := (thins.error_iff entry.path).1 ⟨cause, listedAfter⟩
        exact absurd (listed.symm.trans refused) (by simp)
      obtain ⟨kept, perm, lost⟩ := thins.lists entry.path entries left listed listedAfter
      have nothing : ∀ child ∈ sortEntries entries, kept child = false →
          host.present after (earlier (entry.child child)) = [] := by
        intro child inSorted leftOut
        have member : child ∈ entries := (List.mergeSort_perm entries _).mem_iff.1 inSorted
        obtain ⟨isFile, absent⟩ := lost child member leftOut
        -- An entry that is left out is a file, so there is nothing below it.
        have leaf : (entry.child child).isDirectory = false := by simp [WalkEntry.child, isFile]
        rw [ofLeaf _ leaf, ← present_ownPlace thins]
        exact ownPlace_of_absent absent
      dsimp only
      rw [sortEntries_filter (named entry.path entries listed).1 perm]
      simp only [ofChild]
      exact filter_flatMap_of_kept nothing

theorem present_places {before after : World} (named : host.ListsNames before)
    (thins : host.Thins before after) (depth : Nat) (entry : WalkEntry) :
    host.places depth entry after = host.present after (host.places depth entry before) := by
  induction depth generalizing entry with
  | zero => exact present_ownPlace thins entry
  | succ depth inductionHypothesis =>
      rw [places, places, present_append, present_ownPlace thins,
        present_placesBelow named thins inductionHypothesis
          fun child leaf => places_of_leaf leaf depth before]

theorem mem_ownPlace {entry : WalkEntry} {world : World} {place : Text}
    (member : place ∈ host.ownPlace entry world) : place = entry.path := by
  unfold ownPlace at member
  split at member
  · exact List.mem_singleton.1 member
  · exact absurd member (by simp)

/-- The places below an entry are had from its path by joining names. -/
theorem exists_of_mem_placesBelow {world : World} (named : host.ListsNames world)
    {ofChild : WalkEntry → List Text} {entry : WalkEntry} {place : Text}
    (within : ∀ child, place ∈ ofChild child → ∃ names : List Text,
      (∀ name ∈ names, name ≠ [] ∧ '/' ∉ name) ∧ place = names.foldl Path.join child.path)
    (member : place ∈ host.placesBelow ofChild entry world) :
    ∃ (first : Text) (names : List Text), (first ≠ [] ∧ '/' ∉ first) ∧
      (∀ name ∈ names, name ≠ [] ∧ '/' ∉ name) ∧
        place = names.foldl Path.join (Path.join entry.path first) := by
  unfold placesBelow at member
  split at member
  · split at member
    · exact absurd member (by simp)
    next entries listed =>
      obtain ⟨child, inSorted, inChild⟩ := List.mem_flatMap.1 member
      obtain ⟨names, proper, reached⟩ := within _ inChild
      have properChild := (named entry.path entries listed).2 child
        ((List.mergeSort_perm entries _).mem_iff.1 inSorted)
      exact ⟨child.name, names, properChild, proper, reached⟩
  · exact absurd member (by simp)

private theorem exists_of_mem_places {world : World} (named : host.ListsNames world) {depth : Nat}
    {entry : WalkEntry} {place : Text} (member : place ∈ host.places depth entry world) :
    ∃ names : List Text, (∀ name ∈ names, name ≠ [] ∧ '/' ∉ name) ∧
      place = names.foldl Path.join entry.path := by
  induction depth generalizing entry with
  | zero => exact ⟨[], by simp, mem_ownPlace member⟩
  | succ depth inductionHypothesis =>
      rcases List.mem_append.1 member with own | below
      · exact ⟨[], by simp, mem_ownPlace own⟩
      · obtain ⟨first, names, properFirst, proper, reached⟩ :=
          exists_of_mem_placesBelow named (fun child => inductionHypothesis) below
        exact ⟨first :: names, List.forall_mem_cons.2 ⟨properFirst, proper⟩, reached⟩

/-- No place is found twice. -/
theorem nodup_places {world : World} (named : host.ListsNames world) (depth : Nat)
    (entry : WalkEntry) : (host.places depth entry world).Nodup := by
  have own : ∀ entry : WalkEntry, (host.ownPlace entry world).Nodup := by
    intro entry
    unfold ownPlace
    split
    · exact List.nodup_singleton _
    · exact List.nodup_nil
  induction depth generalizing entry with
  | zero => exact own entry
  | succ depth inductionHypothesis =>
      rw [places, List.nodup_append']
      refine ⟨own entry, ?_, ?_⟩
      · unfold placesBelow
        split
        · split
          · exact List.nodup_nil
          next entries listed =>
            obtain ⟨distinct, proper⟩ := named entry.path entries listed
            have sorted : ((sortEntries entries).map DirectoryEntry.name).Nodup :=
              ((List.mergeSort_perm entries _).map _).nodup_iff.2 distinct
            rw [List.nodup_flatMap]
            refine ⟨fun child _ => inductionHypothesis _, ?_⟩
            have properSorted : ∀ child ∈ sortEntries entries, child.name ≠ [] ∧ '/' ∉ child.name :=
              fun child member => proper child ((List.mergeSort_perm entries _).mem_iff.1 member)
            refine (List.pairwise_map.1 sorted).imp_of_mem ?_
            intro first second inFirst inSecond differ place ofFirst ofSecond
            obtain ⟨left, properLeft, reached⟩ := exists_of_mem_places named ofFirst
            obtain ⟨right, properRight, again⟩ := exists_of_mem_places named ofSecond
            exact differ (Path.eq_of_foldl_join_eq (properSorted first inFirst)
              (properSorted second inSecond) properLeft properRight (reached.symm.trans again))
        · exact List.nodup_nil
      -- What lies below an entry has a longer path than the entry.
      · intro place inOwn inBelow
        obtain ⟨first, names, properFirst, proper, reached⟩ :=
          exists_of_mem_placesBelow named (fun child => exists_of_mem_places named) inBelow
        rw [Path.foldl_join _ properFirst.1 (Path.endsInSlash_of_notMem properFirst.2) proper,
          mem_ownPlace inOwn] at reached
        have spelled : joinWith '/' (first :: names) ≠ [] := by
          obtain ⟨head, tail, rfl⟩ := List.exists_cons_of_ne_nil properFirst.1
          cases names <;> simp [joinWith]
        have longer := Path.length_encode_join entry.path spelled
        rw [← reached] at longer
        exact absurd longer (Nat.lt_irrefl _)

/-! ## The root -/

/-- Whether the root of a walk is a directory, by what stands at it and what it leads to. -/
def rootKind? (own? led? : Option FileKind) : Option Bool :=
  if own? = some .link then led?.map (· == .directory) else own?.map (· == .directory)

private theorem toOption_rootIsDirectory (root : Text) (world : World) :
    (host.rootIsDirectory root world).toOption =
      rootKind? (host.ownKind? root world) (host.kind? root world) := by
  unfold rootIsDirectory rootKind? Files.ownKind? Files.kind?
  rcases host.lstat root world with cause | kind
  · rfl
  · cases kind with
    | link => cases host.stat root world <;> rfl
    | file | directory | special => rfl

/-- The root stays what it is, or it has led to a file that is gone. -/
theorem rootIsDirectory_of_thins {before after : World} (thins : host.Thins before after)
    (root : Text) :
    (host.rootIsDirectory root after).toOption = (host.rootIsDirectory root before).toOption ∨
      (host.rootIsDirectory root before).toOption = some false ∧
        (host.rootIsDirectory root after).toOption = none ∧
          host.isFile root after = false := by
  have absent : host.kind? root after = none → host.isFile root after = false := by
    intro gone
    rw [← Bool.not_eq_true, Files.isFile_iff, gone]
    simp
  rw [toOption_rootIsDirectory, toOption_rootIsDirectory]
  cases thins.fades root with
  | stays itself leads => exact .inl (by rw [itself, leads])
  | dangles itself led gone =>
      rw [itself, led, gone]
      by_cases isLink : host.ownKind? root before = some .link
      · rw [isLink]
        exact .inr ⟨rfl, rfl, absent gone⟩
      · exact .inl (by rw [rootKind?, rootKind?, if_neg isLink, if_neg isLink])
  | removed stood led vanished gone =>
      rw [stood, vanished]
      exact .inr ⟨rfl, rfl, absent gone⟩

theorem present_rootPlaces {before after : World} (named : host.ListsNames before)
    (thins : host.Thins before after) (root : Text) :
    host.rootPlaces root after = host.present after (host.rootPlaces root before) := by
  have shape : ∀ world, host.rootPlaces root world =
      match (host.rootIsDirectory root world).toOption with
      | none => []
      | some isDirectory => host.places maximalDepth (.ofRoot root isDirectory) world := by
    intro world
    unfold rootPlaces
    cases host.rootIsDirectory root world <;> rfl
  rw [shape, shape]
  rcases rootIsDirectory_of_thins thins root with same | ⟨wasFile, gone, absent⟩
  · rw [same]
    cases (host.rootIsDirectory root before).toOption with
    | none => rfl
    | some isDirectory => exact present_places named thins _ _
  · rw [wasFile, gone]
    dsimp only
    rw [places_of_leaf rfl, ← present_ownPlace thins]
    exact (ownPlace_of_absent absent).symm

theorem nodup_rootPlaces {world : World} (named : host.ListsNames world) (root : Text) :
    (host.rootPlaces root world).Nodup := by
  unfold rootPlaces
  split
  · exact List.nodup_nil
  · exact nodup_places named _ _

end Host

end DocSamples
