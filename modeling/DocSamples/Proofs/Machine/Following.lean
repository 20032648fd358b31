import DocSamples.Machine.FileTree
import Mathlib.Data.List.Basic

/-!
Contract: following a path in a tree of files, part by part.

Owns:
- what comes of the first part of a path (`FileTree.turn`), and induction over the turns that
  a path takes;
- following a path further, through a link at its end, or from a directory that it leads to;
- what stands at a path, and at the path of a directory that a name is joined to.

Following goes on with the rest of a path, or with what a link says and one link less.  Every
proof about it is by the induction over its turns, and says what a single turn does first.
-/

namespace DocSamples.FileTree

/-! ## Following a path part by part -/

/-- What comes of the first part of a path. -/
inductive Turn where
  | ends (result : Except SystemError Place)
  /-- One goes on from a directory, with the parts of a link before the others. -/
  | goesOn (links : Nat) (directory : Key) (before : List Text)

/-- What comes of the first part of a path, which may be the last. -/
def turn (tree : FileTree) (through : Bool) (links : Nat) (directory : Key) (part : Text)
    (last : Bool) : Turn :=
  if !Path.isComponent part then
    .goesOn links directory []
  else if part == Path.up then
    .goesOn links directory.dropLast []
  else if nameLimit < (Utf8.encode part).length then
    .ends (.error .nameTooLong)
  else
    match tree.node? (directory ++ [part]) with
    | none => .ends (if last then .ok ⟨directory ++ [part], none⟩ else .error .notFound)
    | some .directory => .goesOn links (directory ++ [part]) []
    | some (.link target) =>
      if last && !through then
        .ends (.ok ⟨directory ++ [part], some (.link target)⟩)
      else
        match links with
        | 0 => .ends (.error .tooManyLinks)
        | fewer + 1 =>
          .goesOn fewer (if Path.isAbsolute target then [] else directory) (Path.parts target)
    | some node =>
      .ends (if last then .ok ⟨directory ++ [part], some node⟩ else .error .notDirectory)

theorem follow_nil (tree : FileTree) (through : Bool) (links : Nat) (directory : Key) :
    tree.follow through links directory [] = .ok ⟨directory, some .directory⟩ := by
  cases links <;> rfl

/-- Where links run out is a matter of what a link does, not of the parts before it. -/
private theorem exists_throughLink (tree : FileTree) (through : Bool) (links : Nat) :
    ∃ throughLink, tree.follow through links = tree.followParts through throughLink ∧
      ∀ directory parts, throughLink directory parts =
        match links with
        | 0 => .error .tooManyLinks
        | fewer + 1 => tree.follow through fewer directory parts := by
  cases links with
  | zero => exact ⟨_, rfl, fun _ _ => rfl⟩
  | succ fewer => exact ⟨_, rfl, fun _ _ => rfl⟩

theorem follow_cons (tree : FileTree) (through : Bool) (links : Nat) (directory : Key)
    (part : Text) (rest : List Text) :
    tree.follow through links directory (part :: rest) =
      match tree.turn through links directory part rest.isEmpty with
      | .ends result => result
      | .goesOn links directory before => tree.follow through links directory (before ++ rest) := by
  obtain ⟨throughLink, follows, onward⟩ := tree.exists_throughLink through links
  rw [follows, followParts, turn]
  split
  · rw [← follows]
    rfl
  split
  · rw [← follows]
    rfl
  split
  · rfl
  cases stands : tree.node? (directory ++ [part]) with
  | none => simp only [stands]
  | some node =>
      cases node with
      | directory => simp only [stands, List.nil_append, follows]
      | link target =>
          simp only [stands]
          split
          · rfl
          · rw [onward]
            cases links <;> rfl
      | file content executable | sink | faulty | utility program => simp only [stands]

/-- A path goes on with one part less, or through one link more. -/
theorem turn_decreases {tree : FileTree} {through last : Bool} {links fewer : Nat}
    {directory next : Key} {part : Text} {before : List Text}
    (turns : tree.turn through links directory part last = .goesOn fewer next before) :
    (fewer = links ∧ before = []) ∨ fewer < links := by
  unfold turn at turns
  split at turns
  · cases turns
    exact .inl ⟨rfl, rfl⟩
  split at turns
  · cases turns
    exact .inl ⟨rfl, rfl⟩
  split at turns
  · cases turns
  split at turns
  · cases turns
  · cases turns
    exact .inl ⟨rfl, rfl⟩
  · split at turns
    · cases turns
    split at turns
    · cases turns
    · cases turns
      exact .inr (Nat.lt_succ_self _)
  · cases turns

/-- Induction over the turns of a path. -/
theorem turn_induction (tree : FileTree) (through : Bool)
    {motive : Nat → Key → List Text → Prop}
    (nil : ∀ links directory, motive links directory [])
    (ends : ∀ links directory part rest result,
      tree.turn through links directory part rest.isEmpty = .ends result →
        motive links directory (part :: rest))
    (goesOn : ∀ links directory part rest fewer next before,
      tree.turn through links directory part rest.isEmpty = .goesOn fewer next before →
        motive fewer next (before ++ rest) → motive links directory (part :: rest))
    (links : Nat) (directory : Key) (parts : List Text) : motive links directory parts := by
  induction links using Nat.strongRecOn generalizing directory parts with
  | _ links ofFewer =>
      induction parts generalizing directory with
      | nil => exact nil links directory
      | cons part rest inductionHypothesis =>
          cases turns : tree.turn through links directory part rest.isEmpty with
          | ends result => exact ends _ _ _ _ _ turns
          | goesOn fewer next before =>
              refine goesOn _ _ _ _ _ _ _ turns ?_
              rcases turn_decreases turns with ⟨rfl, rfl⟩ | less
              · exact inductionHypothesis next
              · exact ofFewer fewer less next _

/-- Whether links are followed at the end, and whether it is the end, matters only where the
path ends. -/
theorem turn_goesOn {tree : FileTree} {through last : Bool} {links fewer : Nat}
    {directory next : Key} {part : Text} {before : List Text}
    (turns : tree.turn through links directory part last = .goesOn fewer next before)
    (other : Bool) : tree.turn true links directory part other = .goesOn fewer next before := by
  unfold turn at turns ⊢
  split at turns
  · rwa [if_pos ‹_›]
  split at turns
  · rwa [if_neg ‹_›, if_pos ‹_›]
  split at turns
  · cases turns
  rw [if_neg ‹_›, if_neg ‹_›, if_neg ‹_›]
  cases stands : tree.node? (directory ++ [part]) with
  | none =>
      rw [stands] at turns
      cases turns
  | some node =>
      rw [stands] at turns
      cases node with
      | directory => exact turns
      | link target =>
          dsimp only at turns ⊢
          rw [Bool.not_true, Bool.and_false, if_neg Bool.false_ne_true]
          split at turns
          · cases turns
          · exact turns
      | file content executable | sink | faulty | utility program => cases turns

/-- A path that is cut short does not end at a directory. -/
theorem node?_of_turn_ends {tree : FileTree} {through last : Bool} {links : Nat}
    {directory : Key} {part : Text} {place : Place}
    (turns : tree.turn through links directory part last = .ends (.ok place)) :
    place.node? ≠ some .directory := by
  unfold turn at turns
  split at turns
  · cases turns
  split at turns
  · cases turns
  split at turns
  · cases turns
  split at turns
  · cases last <;> cases turns
    simp
  · cases turns
  · split at turns
    · cases turns
      simp
    split at turns
    · cases turns
    · cases turns
  next notDirectory _ _ =>
    cases last <;> cases turns
    simpa using notDirectory

/-- Only a link makes a difference to following links at the end. -/
theorem turn_through {tree : FileTree} {last : Bool} {links : Nat} {directory : Key}
    {part : Text} {place : Place}
    (turns : tree.turn false links directory part last = .ends (.ok place))
    (noLink : ∀ target, place.node? ≠ some (.link target)) :
    tree.turn true links directory part last = .ends (.ok place) := by
  unfold turn at turns ⊢
  split at turns
  · cases turns
  split at turns
  · cases turns
  split at turns
  · cases turns
  rw [if_neg ‹_›, if_neg ‹_›, if_neg ‹_›]
  cases stands : tree.node? (directory ++ [part]) with
  | none =>
      rw [stands] at turns
      exact turns
  | some node =>
      rw [stands] at turns
      cases node with
      | directory => exact turns
      | link target =>
          dsimp only at turns
          split at turns
          · cases turns
            exact absurd rfl (noLink target)
          · cases links <;> cases turns
      | file content executable | sink | faulty | utility program => exact turns

/-- A regular file, or nothing, ends a path. -/
theorem turn_of_file {tree : FileTree} {directory : Key} {part : Text}
    (component : ¬ (!Path.isComponent part) = true) (named : ¬ (part == Path.up) = true)
    (short : ¬ nameLimit < (Utf8.encode part).length)
    (isFile : ∀ node, tree.node? (directory ++ [part]) = some node → node.kind = .file)
    (through : Bool) (links : Nat) (last : Bool) :
    ∃ cause, tree.turn through links directory part last =
      .ends (if last then .ok ⟨directory ++ [part], tree.node? (directory ++ [part])⟩
        else .error cause) := by
  unfold turn
  rw [if_neg component, if_neg named, if_neg short]
  cases stands : tree.node? (directory ++ [part]) with
  | none => exact ⟨_, rfl⟩
  | some node =>
      have kind := isFile node stands
      cases node with
      | directory | link target | sink => exact absurd kind (by simp [Node.kind])
      | file content executable | faulty | utility program => exact ⟨_, rfl⟩

/-! ## Following a path -/

private theorem follow_through (tree : FileTree) {links : Nat} {directory : Key} {parts : List Text}
    {place : Place} (found : tree.follow false links directory parts = .ok place)
    (noLink : ∀ target, place.node? ≠ some (.link target)) :
    tree.follow true links directory parts = .ok place := by
  induction links, directory, parts using tree.turn_induction false with
  | nil links directory =>
      rw [follow_nil] at found ⊢
      exact found
  | ends links directory part rest result turns =>
      rw [follow_cons, turns] at found
      obtain rfl : result = .ok place := found
      rw [follow_cons, turn_through turns noLink]
  | goesOn links directory part rest fewer next before turns inductionHypothesis =>
      rw [follow_cons, turns] at found
      rw [follow_cons, turn_goesOn turns]
      exact inductionHypothesis found

/-- From a directory that a path leads to, one goes on as from any other, with some of the
links used up. -/
theorem follow_append (tree : FileTree) {links : Nat} {directory found : Key} {parts : List Text}
    (leads : tree.follow true links directory parts = .ok ⟨found, some .directory⟩) :
    ∃ fewer, ∀ more, tree.follow true links directory (parts ++ more) =
      tree.follow true fewer found more := by
  induction links, directory, parts using tree.turn_induction true with
  | nil links directory =>
      rw [follow_nil] at leads
      obtain ⟨rfl, _⟩ := Place.mk.inj (Except.ok.inj leads)
      exact ⟨links, fun more => rfl⟩
  | ends links directory part rest result turns =>
      rw [follow_cons, turns] at leads
      obtain rfl : result = .ok ⟨found, some .directory⟩ := leads
      exact absurd rfl (node?_of_turn_ends turns)
  | goesOn links directory part rest fewer next before turns inductionHypothesis =>
      rw [follow_cons, turns] at leads
      obtain ⟨left, goesOn⟩ := inductionHypothesis leads
      refine ⟨left, fun more => ?_⟩
      rw [List.cons_append, follow_cons, turn_goesOn turns, ← goesOn, List.append_assoc]

/-- An empty part that is not the last changes nothing. -/
theorem follow_append_empty (tree : FileTree) (links : Nat) (directory : Key)
    (parts : List Text) {more : List Text} (nonempty : more ≠ []) :
    tree.follow true links directory (parts ++ [] :: more) =
      tree.follow true links directory (parts ++ more) := by
  induction links, directory, parts using tree.turn_induction true with
  | nil links directory =>
      rw [List.nil_append, List.nil_append, follow_cons, turn, if_pos (by decide)]
      rfl
  | ends links directory part rest result turns =>
      have notLast : (rest ++ [] :: more).isEmpty = false := by simp
      have notLastEither : (rest ++ more).isEmpty = false := by simp [nonempty]
      rw [List.cons_append, List.cons_append, follow_cons, follow_cons, notLast, notLastEither]
      -- Where the path ends with this part as the last, it also ends with others behind it.
      cases turnsOn : tree.turn true links directory part false with
      | ends result => rfl
      | goesOn fewer next before =>
          exact absurd (turns.symm.trans (turn_goesOn turnsOn _)) (by simp)
  | goesOn links directory part rest fewer next before turns inductionHypothesis =>
      rw [List.cons_append, List.cons_append, follow_cons, follow_cons, turn_goesOn turns,
        turn_goesOn turns]
      dsimp only
      rw [← List.append_assoc, ← List.append_assoc]
      exact inductionHypothesis

theorem locate_through (tree : FileTree) {workingDirectory : Key} {path : Text} {place : Place}
    (found : tree.locate false workingDirectory path = .ok place)
    (noLink : ∀ target, place.node? ≠ some (.link target)) :
    tree.locate true workingDirectory path = .ok place := by
  unfold locate at found ⊢
  split at found
  · cases found
  split at found
  · cases found
  split at found
  · cases found
  rw [if_neg ‹_›, if_neg ‹_›, if_neg ‹_›]
  exact follow_through tree found noLink

/-! ## What stands at a path -/

def kindAt? (tree : FileTree) (through : Bool) (workingDirectory : Key) (path : Text) :
    Option FileKind :=
  ((tree.nodeAt through workingDirectory path).map Node.kind).toOption

theorem kindAt?_of_located {tree : FileTree} {through : Bool} {workingDirectory : Key} {path : Text} {place : Place}
    (located : tree.locate through workingDirectory path = .ok place) :
    tree.kindAt? through workingDirectory path = place.node?.map Node.kind := by
  unfold kindAt? nodeAt
  rw [located]
  obtain ⟨_, node?⟩ := place
  cases node? <;> rfl

theorem listAt_of_file {tree : FileTree} {workingDirectory found : Key} {path : Text}
    {node? : Option Node} (located : tree.locate true workingDirectory path = .ok ⟨found, node?⟩)
    (noDirectory : node? ≠ some .directory) :
    ∃ cause, tree.listAt workingDirectory path = .error cause := by
  unfold listAt
  rw [located]
  cases node? with
  | none => exact ⟨_, rfl⟩
  | some node =>
      cases node with
      | directory => exact absurd rfl noDirectory
      | file content executable | link target | sink | faulty | utility program => exact ⟨_, rfl⟩

theorem listAt_of_directory {tree : FileTree} {workingDirectory found : Key} {path : Text}
    (located : tree.locate true workingDirectory path = .ok ⟨found, some .directory⟩) :
    tree.listAt workingDirectory path = .ok (tree.entries found) := by
  unfold listAt
  rw [located]

theorem listAt_of_error {tree : FileTree} {workingDirectory : Key} {path : Text}
    {cause : SystemError} (located : tree.locate true workingDirectory path = .error cause) :
    tree.listAt workingDirectory path = .error cause := by
  unfold listAt
  rw [located]

/-! ## Joining a name to the path of a directory -/

/-- Where a name leads that is joined to the path of a directory. -/
theorem follow_join (tree : FileTree) {links : Nat} {directory found : Key} {path name : Text}
    (leads : tree.follow true links directory (Path.parts path) = .ok ⟨found, some .directory⟩)
    (slashless : '/' ∉ name) :
    ∃ fewer, tree.follow true links directory (Path.parts (Path.join path name)) =
      tree.follow true fewer found [name] := by
  obtain ⟨fewer, goesOn⟩ := tree.follow_append leads
  refine ⟨fewer, ?_⟩
  rw [← goesOn]
  unfold Path.join Path.parts
  split
  next slashed =>
    -- A path that ends in a slash has an empty part at its end, which the name stands for.
    obtain ⟨front, rfl⟩ : ∃ front, path = front ++ ['/'] := by
      have last : path.getLast? = some '/' := beq_iff_eq.1 slashed
      exact ⟨path.dropLast, (List.dropLast_append_getLast? _ last).symm⟩
    rw [List.append_assoc, List.singleton_append, splitAt_append_separator,
      splitAt_append_separator, splitAt_of_notMem '/' slashless, List.append_assoc]
    exact (tree.follow_append_empty links directory (splitAt '/' front) (by simp)).symm
  · rw [splitAt_append_separator, splitAt_of_notMem '/' slashless]

/-- Under a name that a directory does not hold, there is no file. -/
theorem follow_name_ne_file {tree : FileTree} {directory : Key} {name : Text}
    (nothing : tree.node? (directory ++ [name]) = none) (links : Nat) {place : Place}
    (found : tree.follow true links directory [name] = .ok place) :
    place.node?.map Node.kind ≠ some .file := by
  rw [follow_cons] at found
  by_cases component : (!Path.isComponent name) = true
  · rw [turn, if_pos component] at found
    rw [← Except.ok.inj ((tree.follow_nil true links directory).symm.trans found)]
    simp [Node.kind]
  by_cases named : (name == Path.up) = true
  · rw [turn, if_neg component, if_pos named] at found
    rw [← Except.ok.inj ((tree.follow_nil true links directory.dropLast).symm.trans found)]
    simp [Node.kind]
  by_cases short : nameLimit < (Utf8.encode name).length
  · rw [turn, if_neg component, if_neg named, if_pos short] at found
    cases found
  · obtain ⟨cause, ends⟩ := turn_of_file component named short
      (fun node stands => absurd (nothing.symm.trans stands) (by simp)) true links true
    rw [List.isEmpty_nil, ends] at found
    rw [← Except.ok.inj found, nothing]
    simp

theorem kindAt?_join_ne_file (tree : FileTree) {workingDirectory found : Key} {path name : Text}
    (leads : tree.locate true workingDirectory path = .ok ⟨found, some .directory⟩)
    (slashless : '/' ∉ name) (nothing : tree.node? (found ++ [name]) = none) :
    tree.kindAt? true workingDirectory (Path.join path name) ≠ some .file := by
  rcases located : tree.locate true workingDirectory (Path.join path name) with cause | place
  · unfold kindAt? nodeAt
    rw [located]
    simp [Except.map, Except.toOption]
  · rw [kindAt?_of_located located]
    unfold locate at leads located
    split at leads
    · cases leads
    split at leads
    · cases leads
    next nonempty =>
    split at leads
    · cases leads
    split at located
    · cases located
    split at located
    · cases located
    split at located
    · cases located
    have sameStart : Path.isAbsolute (Path.join path name) = Path.isAbsolute path := by
      obtain ⟨first, rest, rfl⟩ := List.exists_cons_of_ne_nil (by simpa using nonempty)
      unfold Path.isAbsolute Path.join
      split <;> rfl
    obtain ⟨fewer, goesOn⟩ := tree.follow_join leads slashless
    rw [sameStart, goesOn] at located
    exact follow_name_ne_file nothing fewer located

end DocSamples.FileTree
