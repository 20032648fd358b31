import DocSamples.Path.Artifact
import DocSamples.Proofs.Path.Components

/-!
Contract: the form of absolute paths.

Owns:
- the slashes at the start of a path, which decide what it starts from;
- paths as they are spelled below a root, and what can be read off them;
- absolute paths in normal form, and that a path made absolute is such a path;
- that it stays as it is when it is made absolute again.
-/

namespace DocSamples.Path

/-! ## Slashes at the start -/

def leadingSlashes (path : Text) : Nat :=
  (path.takeWhile (· == '/')).length

theorem isAbsolute_iff (path : Text) : isAbsolute path = true ↔ leadingSlashes path ≠ 0 := by
  unfold isAbsolute leadingSlashes
  cases path with
  | nil => simp
  | cons first rest =>
      by_cases slash : first = '/'
      · simp [slash]
      · simp [slash]

theorem leadingSlashes_append (front rest : Text) {next : Char} (stops : next ≠ '/') :
    leadingSlashes (front ++ next :: rest) = leadingSlashes front := by
  have stopsHere : (next == '/') = false := beq_eq_false_iff_ne.2 stops
  unfold leadingSlashes
  rw [List.takeWhile_append]
  split
  next allSlashes =>
    rw [List.takeWhile_cons, stopsHere, allSlashes]
    simp
  next => rfl

private theorem takeWhile_slash_eq_nil {path : Text}
    (relative : ∀ rest, path = '/' :: rest → False) :
    path.takeWhile (· == '/') = [] := by
  cases path with
  | nil => rfl
  | cons first rest =>
      have differs : (first == '/') = false :=
        beq_eq_false_iff_ne.2 fun same => relative rest (by rw [same])
      rw [List.takeWhile_cons, differs]
      rfl

/-- Two slashes are kept, and any other number of them counts as one. -/
theorem absoluteBase_eq (directory path : Text) :
    absoluteBase directory path =
      if leadingSlashes path = 0 then directory
      else if leadingSlashes path = 2 then ['/', '/'] else ['/'] := by
  unfold leadingSlashes
  fun_cases absoluteBase directory path with
  | case1 rest => simp
  | case2 rest noThird => simp [takeWhile_slash_eq_nil noThird]
  | case3 rest _ noSecond => simp [takeWhile_slash_eq_nil noSecond]
  | case4 _ _ _ relative => simp [takeWhile_slash_eq_nil relative]

/-- A path that starts at the root does without the directory. -/
theorem absolute_of_isAbsolute {path : Text} (rooted : isAbsolute path = true)
    (directory other : Text) : absolute directory path = absolute other path := by
  have slashes := (isAbsolute_iff path).1 rooted
  have same : absoluteBase directory path = absoluteBase other path := by
    rw [absoluteBase_eq, absoluteBase_eq, if_neg slashes, if_neg slashes]
  unfold absolute
  rw [same]

/-- What a path starts from is decided before its last component. -/
theorem EndsIn.absoluteBase_eq {path front name trailing : Text}
    (ends : EndsIn path front name trailing) (directory : Text) :
    absoluteBase directory path = absoluteBase directory front := by
  obtain ⟨nonempty, -⟩ := (isComponent_iff name).1 ends.proper
  obtain ⟨first, others, rfl⟩ := List.exists_cons_of_ne_nil nonempty
  have stops : first ≠ '/' := fun same => ends.slashless (same ▸ List.mem_cons_self)
  have same : leadingSlashes path = leadingSlashes front := by
    rw [ends.spelled, List.append_assoc, List.cons_append, leadingSlashes_append _ _ stops]
  rw [Path.absoluteBase_eq, Path.absoluteBase_eq, same]

/-! ## Paths below a root -/

/-- What stands between the slashes below a root: names, and nothing behind a last slash. -/
def segments (names : List Text) (slash : Bool) : List Text :=
  if slash then names ++ [[]] else names

/-- The path with a root and names below it, and perhaps a slash at its end. -/
def spell (root : Text) (names : List Text) (slash : Bool) : Text :=
  root ++ joinWith '/' (segments names slash)

theorem joinWith_concat_nil {names : List Text} (nonempty : names ≠ []) :
    joinWith '/' (names ++ [[]]) = joinWith '/' names ++ ['/'] := by
  induction names with
  | nil => exact absurd rfl nonempty
  | cons name names inductionHypothesis =>
      cases names with
      | nil => rfl
      | cons next names =>
          have later := inductionHypothesis (List.cons_ne_nil _ _)
          rw [List.cons_append, List.cons_append, joinWith, ← List.cons_append, later, joinWith,
            List.append_assoc]
          rfl

private theorem spell_slash (root : Text) {names : List Text} (nonempty : names ≠ []) :
    spell root names true = spell root names false ++ ['/'] := by
  unfold spell segments
  rw [if_pos rfl, if_neg nofun, joinWith_concat_nil nonempty, List.append_assoc]

/-- No slash stands next to another where no part but the first and the last is empty. -/
theorem not_slashes_infix {path : Text} (inner : ∀ part ∈ (parts path).tail.dropLast, part ≠ []) :
    ¬ ['/', '/'] <:+: path := by
  rintro ⟨front, back, rfl⟩
  obtain ⟨first, others, shape⟩ := List.exists_cons_of_ne_nil (splitAt_ne_nil '/' front)
  have split : parts (front ++ ['/', '/'] ++ back) = first :: (others ++ [] :: parts back) := by
    rw [List.append_assoc, List.cons_append, parts_append_slash, parts, shape]
    exact congrArg (first :: others ++ ·) (parts_append_slash [] back)
  have last : ([] :: parts back).dropLast = [] :: (parts back).dropLast :=
    List.dropLast_cons_of_ne_nil (splitAt_ne_nil '/' back)
  rw [split, List.tail_cons, List.dropLast_append_cons, last] at inner
  exact inner [] (List.mem_append_right _ List.mem_cons_self) rfl

/-- Proper names below one of the two roots; a slash at the end has a name before it. -/
structure Spelled (root : Text) (names : List Text) (slash : Bool) : Prop where
  isRoot : root = ['/'] ∨ root = ['/', '/']
  proper : ∀ name ∈ names, isComponent name = true ∧ '/' ∉ name
  named : slash = true → names ≠ []

namespace Spelled

variable {root : Text} {names : List Text} {slash : Bool}

theorem unslashed (spelled : Spelled root names slash) : Spelled root names false :=
  ⟨spelled.isRoot, spelled.proper, nofun⟩

theorem name_ne_nil (spelled : Spelled root names slash) {name : Text} (member : name ∈ names) :
    name ≠ [] :=
  ((isComponent_iff name).1 (spelled.proper name member).1).1

theorem slash_eq_false (spelled : Spelled root names slash) (nothing : names = []) :
    slash = false :=
  Bool.not_eq_true _ ▸ fun slashed => spelled.named slashed nothing

theorem mem_segments {part : Text} (member : part ∈ segments names slash) :
    part = [] ∨ part ∈ names := by
  unfold segments at member
  cases slash with
  | false => exact .inr member
  | true =>
      rcases List.mem_append.1 member with inside | last
      · exact .inr inside
      · exact .inl (List.mem_singleton.1 last)

theorem parts_segments (spelled : Spelled root names slash) :
    parts (joinWith '/' (segments names slash)) =
      if names = [] then [[]] else segments names slash := by
  have slashless : ∀ part ∈ segments names slash, '/' ∉ part := by
    intro part member
    rcases mem_segments member with rfl | inside
    · exact List.not_mem_nil
    · exact (spelled.proper part inside).2
  by_cases nothing : names = []
  · rw [nothing, spelled.slash_eq_false nothing]
    rfl
  · rw [if_neg nothing]
    refine splitAt_joinWith '/' (fun empty => nothing ?_) slashless
    unfold segments at empty
    split at empty
    · exact absurd empty (List.append_ne_nil_of_right_ne_nil _ (List.cons_ne_nil _ _))
    · exact empty

private theorem mem_parts_segments (spelled : Spelled root names slash) {part : Text}
    (member : part ∈ parts (joinWith '/' (segments names slash))) : part = [] ∨ part ∈ names := by
  rw [spelled.parts_segments] at member
  split at member
  · exact .inl (List.mem_singleton.1 member)
  · exact mem_segments member

/-- The parts of the path are those below the root, behind an empty one for each slash of it. -/
theorem mem_parts_spell (spelled : Spelled root names slash) {part : Text}
    (member : part ∈ parts (spell root names slash)) : part = [] ∨ part ∈ names := by
  unfold spell at member
  rcases spelled.isRoot with rfl | rfl
  · rcases List.mem_cons.1 member with empty | below
    · exact .inl empty
    · exact spelled.mem_parts_segments below
  · rcases List.mem_cons.1 member with empty | below
    · exact .inl empty
    · rcases List.mem_cons.1 below with empty | inside
      · exact .inl empty
      · exact spelled.mem_parts_segments inside

private theorem here_notMem_parts (spelled : Spelled root names slash) :
    here ∉ parts (spell root names slash) := by
  intro member
  rcases spelled.mem_parts_spell member with empty | named
  · exact absurd empty (List.cons_ne_nil _ _)
  · exact absurd (spelled.proper here named).1 (by decide)

private theorem not_slashes_infix (spelled : Spelled root names slash) :
    ¬ ['/', '/'] <:+: (spell root names slash).tail := by
  have inside : ∀ part ∈ (parts (joinWith '/' (segments names slash))).dropLast, part ≠ [] := by
    intro part member
    rw [spelled.parts_segments] at member
    split at member
    · exact absurd member List.not_mem_nil
    · unfold segments at member
      split at member
      · rw [List.dropLast_concat] at member
        exact spelled.name_ne_nil member
      · exact spelled.name_ne_nil (List.dropLast_subset _ member)
  apply Path.not_slashes_infix
  intro part member
  unfold spell at member
  rcases spelled.isRoot with rfl | rfl
  · have below : part ∈ (parts (joinWith '/' (segments names slash))).tail.dropLast := member
    rw [← List.tail_dropLast] at below
    exact inside part (List.mem_of_mem_tail below)
  · exact inside part member

theorem components_eq (spelled : Spelled root names slash) :
    components (spell root names slash) = names := by
  have all : names.filter isComponent = names :=
    List.filter_eq_self.2 fun name member => (spelled.proper name member).1
  have below : components (joinWith '/' (segments names slash)) = names := by
    unfold components
    rw [spelled.parts_segments]
    split
    next nothing =>
      rw [nothing]
      rfl
    next =>
      unfold segments
      split
      · rw [List.filter_append, all]
        exact List.append_nil _
      · exact all
  unfold spell
  rcases spelled.isRoot with rfl | rfl
  · exact (components_slash _).trans below
  · exact (components_slash _).trans ((components_slash _).trans below)

theorem eq_root (spelled : Spelled root names slash) (nothing : names = []) :
    spell root names slash = root := by
  rw [nothing, spelled.slash_eq_false nothing]
  exact List.append_nil root

/-- The path is a root exactly if no name stands below it. -/
theorem isRoot_iff (spelled : Spelled root names slash) :
    spell root names slash = ['/'] ∨ spell root names slash = ['/', '/'] ↔ names = [] := by
  constructor
  · intro alone
    rw [← spelled.components_eq]
    rcases alone with one | two
    · rw [one]
      rfl
    · rw [two]
      rfl
  · intro nothing
    rw [spelled.eq_root nothing]
    exact spelled.isRoot

/-- The first name comes directly behind the root. -/
theorem exists_first (spelled : Spelled root names slash) (nonempty : names ≠ []) :
    ∃ first rest, first ≠ '/' ∧ joinWith '/' (segments names slash) = first :: rest := by
  obtain ⟨name, others, rfl⟩ := List.exists_cons_of_ne_nil nonempty
  obtain ⟨first, rest, rfl⟩ :=
    List.exists_cons_of_ne_nil (spelled.name_ne_nil List.mem_cons_self)
  have slashless := (spelled.proper (first :: rest) List.mem_cons_self).2
  have more : ∃ tail, segments ((first :: rest) :: others) slash = (first :: rest) :: tail := by
    unfold segments
    cases slash with
    | false => exact ⟨_, rfl⟩
    | true => exact ⟨_, rfl⟩
  obtain ⟨tail, shape⟩ := more
  rw [shape]
  cases tail with
  | nil => exact ⟨first, _, fun same => slashless (same ▸ List.mem_cons_self), rfl⟩
  | cons => exact ⟨first, _, fun same => slashless (same ▸ List.mem_cons_self), rfl⟩

theorem leadingSlashes_eq (spelled : Spelled root names slash) :
    leadingSlashes (spell root names slash) = root.length := by
  have alone : leadingSlashes root = root.length := by
    rcases spelled.isRoot with rfl | rfl
    · rfl
    · rfl
  by_cases nothing : names = []
  · rw [spelled.eq_root nothing, alone]
  · obtain ⟨first, rest, stops, shape⟩ := spelled.exists_first nothing
    rw [spell, shape, leadingSlashes_append _ _ stops, alone]

theorem endsInSlash_root (spelled : Spelled root names slash) : endsInSlash root = true := by
  rcases spelled.isRoot with rfl | rfl
  · rfl
  · rfl

private theorem endsInSlash_open (spelled : Spelled root names slash) (nonempty : names ≠ []) :
    endsInSlash (joinWith '/' names) = false := by
  by_contra ends
  obtain ⟨front, whole⟩ := exists_of_endsInSlash (by simpa using ends)
  have below := spelled.unslashed.parts_segments
  rw [segments, if_neg nofun, whole, parts_append_slash, if_neg nonempty] at below
  have empty : [] ∈ names := by
    rw [← below]
    exact List.mem_append_right _ List.mem_cons_self
  exact spelled.name_ne_nil empty rfl

theorem endsInSlash_eq (spelled : Spelled root names slash) :
    endsInSlash (spell root names slash) = (slash || names.isEmpty) := by
  by_cases nothing : names = []
  · rw [spelled.eq_root nothing, spelled.endsInSlash_root, nothing]
    exact (Bool.or_true slash).symm
  · obtain ⟨first, rest, -, shape⟩ := spelled.exists_first nothing
    rw [List.isEmpty_eq_false_iff.2 nothing, Bool.or_false, spell, shape,
      endsInSlash_append root (List.cons_ne_nil _ _), ← shape]
    cases slash with
    | true =>
        rw [segments, if_pos rfl, joinWith_concat_nil nothing,
          endsInSlash_append _ (List.cons_ne_nil _ _)]
        rfl
    | false => exact spelled.endsInSlash_open nothing

theorem foldl_join_eq (spelled : Spelled root names slash) :
    names.foldl join root = spell root names false := by
  have ends := spelled.endsInSlash_root
  cases names with
  | nil => exact (List.append_nil root).symm
  | cons name names =>
      obtain ⟨proper, slashless⟩ := spelled.proper name List.mem_cons_self
      rw [List.foldl_cons, Path.foldl_join root (spelled.name_ne_nil List.mem_cons_self)
        (endsInSlash_of_notMem slashless) fun other member =>
          ⟨spelled.name_ne_nil (List.mem_cons_of_mem _ member),
            (spelled.proper other (List.mem_cons_of_mem _ member)).2⟩]
      unfold join
      rw [if_pos ends]
      rfl

end Spelled

/-! ## Paths made absolute -/

/-- What a path is made absolute to, when what it starts from is a root with names below it. -/
theorem absolute_eq_spell {root : Text} {names : List Text} {directory path : Text}
    (isRoot : root = ['/'] ∨ root = ['/', '/'])
    (proper : ∀ name ∈ names, isComponent name = true ∧ '/' ∉ name)
    (base : absoluteBase directory path = names.foldl join root) :
    let slash := endsInSlash path && !(names ++ components path).isEmpty
    Spelled root (names ++ components path) slash ∧
      absolute directory path = spell root (names ++ components path) slash := by
  intro slash
  have spelled : Spelled root (names ++ components path) slash := by
    refine ⟨isRoot, ?_, fun slashed => ?_⟩
    · intro name member
      rcases List.mem_append.1 member with above | below
      · exact proper name above
      · exact proper_of_mem_components below
    · simpa using (Bool.and_eq_true_iff.1 slashed).2
  have joined : (components path).foldl join (absoluteBase directory path) =
      spell root (names ++ components path) false := by
    rw [base, ← List.foldl_append, spelled.foldl_join_eq]
  refine ⟨spelled, ?_⟩
  -- A root ends in a slash already, so one is only ever put behind a name.
  unfold absolute
  dsimp only
  rw [joined, spelled.unslashed.endsInSlash_eq, Bool.false_or]
  split
  next slashed =>
    have named : slash = true := slashed
    rw [named, spell_slash root (spelled.named named)]
  next open_ =>
    have named : slash = false := Bool.not_eq_true _ ▸ open_
    rw [named]

private theorem Spelled.absolute_eq {root : Text} {names : List Text} {slash : Bool}
    (spelled : Spelled root names slash) (directory : Text) :
    absolute directory (spell root names slash) = spell root names slash := by
  have base : absoluteBase directory (spell root names slash) = [].foldl join root := by
    rw [absoluteBase_eq, spelled.leadingSlashes_eq]
    rcases spelled.isRoot with rfl | rfl
    · rfl
    · rfl
  obtain ⟨-, same⟩ := absolute_eq_spell spelled.isRoot (by simp) base
  rw [same, List.nil_append, spelled.components_eq, spelled.endsInSlash_eq]
  congr 1
  cases names with
  | nil =>
      rw [spelled.slash_eq_false rfl]
      rfl
  | cons name names =>
      cases slash with
      | true => rfl
      | false => rfl

/-- An absolute path in normal form: no dot, and no slash but one before each name, or alone. -/
structure IsNormal (path : Text) : Prop where
  isAbsolute : isAbsolute path = true
  noHere : here ∉ parts path
  noRepeat : ¬ ['/', '/'] <:+: path
  noEnd : path = ['/'] ∨ endsInSlash path = false

private theorem cons_joinWith {names : List Text} (nonempty : names ≠ []) :
    '/' :: joinWith '/' names = names.flatMap ('/' :: ·) := by
  induction names with
  | nil => exact absurd rfl nonempty
  | cons name names inductionHypothesis =>
      cases names with
      | nil => exact (List.append_nil _).symm
      | cons next names =>
          rw [joinWith, inductionHypothesis (List.cons_ne_nil _ _), List.flatMap_cons]
          rfl

/-- Between slashes, an empty part makes two of them neighbours. -/
theorem slashes_infix_of_mem {path : Text} (empty : [] ∈ parts path) :
    ['/', '/'] <:+: '/' :: path ++ ['/'] := by
  obtain ⟨before, after, shape⟩ := List.append_of_mem empty
  have whole : '/' :: path = (before ++ [] :: after).flatMap ('/' :: ·) := by
    rw [← shape, parts, ← cons_joinWith (splitAt_ne_nil '/' path), joinWith_splitAt]
  have next : ∃ back, after.flatMap ('/' :: ·) ++ ['/'] = '/' :: back := by
    cases after with
    | nil => exact ⟨_, rfl⟩
    | cons part after => exact ⟨_, rfl⟩
  obtain ⟨back, next⟩ := next
  refine ⟨before.flatMap ('/' :: ·), back, ?_⟩
  rw [whole, List.flatMap_append, List.flatMap_cons, List.append_assoc, List.append_assoc,
    List.append_assoc, next]
  rfl

private theorem IsNormal.eq_spell {directory : Text} (normal : IsNormal directory) :
    directory = spell ['/'] (components directory) false := by
  obtain ⟨rest, rfl⟩ : ∃ rest, directory = '/' :: rest := by
    have head := normal.isAbsolute
    unfold Path.isAbsolute at head
    rw [beq_iff_eq, List.head?_eq_some_iff] at head
    exact head
  rcases normal.noEnd with alone | open_
  · rw [alone]
    rfl
  have below : ∀ part ∈ parts rest, isComponent part = true := by
    intro part member
    refine (isComponent_iff part).2 ⟨?_, ?_⟩
    · rintro rfl
      -- An empty part lies between two slashes, or behind a last one.
      rcases List.infix_concat_iff.1 (slashes_infix_of_mem member) with ⟨front, last⟩ | inside
      · have ends : front ++ ['/'] = '/' :: rest :=
          List.append_cancel_right ((List.append_assoc front _ _).trans last)
        rw [← ends, endsInSlash_append _ (List.cons_ne_nil _ _)] at open_
        exact absurd open_ (by decide)
      · exact normal.noRepeat inside
    · rintro rfl
      exact normal.noHere (List.mem_cons_of_mem _ member)
  have all : components rest = parts rest := List.filter_eq_self.2 below
  rw [components_slash, all]
  show _ = '/' :: joinWith '/' (parts rest)
  rw [parts, joinWith_splitAt]

private theorem IsNormal.eq_foldl_join {directory : Text} (normal : IsNormal directory) :
    directory = (components directory).foldl join ['/'] := by
  have spelled : Spelled ['/'] (components directory) false :=
    ⟨.inl rfl, fun _ => proper_of_mem_components, nofun⟩
  rw [spelled.foldl_join_eq]
  exact normal.eq_spell

/-- How a path is made absolute from a directory in normal form. -/
structure IsAbsoluteForm (directory path whole : Text) : Prop where
  isAbsolute : isAbsolute whole = true
  twoSlashes_iff : leadingSlashes whole = 2 ↔ leadingSlashes path = 2
  noHere : here ∉ parts whole
  noRepeat : ¬ ['/', '/'] <:+: whole.tail
  components_eq : components whole =
    (if Path.isAbsolute path then [] else components directory) ++ components path
  endsInSlash_iff : endsInSlash whole = true ↔
    endsInSlash path = true ∨ whole = ['/'] ∨ whole = ['/', '/']
  stays : ∀ other, absolute other whole = whole

/-- What a path starts from is a root, with the names of the directory below it if the path is
relative. -/
theorem IsNormal.exists_root {directory : Text} (normal : IsNormal directory) (path : Text) :
    ∃ root, (root = ['/'] ∨ root = ['/', '/']) ∧
      (root.length = 2 ↔ leadingSlashes path = 2) ∧
      absoluteBase directory path =
        (if Path.isAbsolute path then [] else components directory).foldl join root := by
  rw [absoluteBase_eq]
  by_cases relative : leadingSlashes path = 0
  · have notAbsolute : Path.isAbsolute path = false := by
      rw [← Bool.not_eq_true, isAbsolute_iff]
      exact fun some => some relative
    refine ⟨['/'], .inl rfl, by simp [relative], ?_⟩
    rw [if_pos relative, notAbsolute, if_neg nofun]
    exact normal.eq_foldl_join
  · rw [if_neg relative, if_pos ((isAbsolute_iff path).2 relative)]
    by_cases two : leadingSlashes path = 2
    · exact ⟨['/', '/'], .inr rfl, by simp [two], if_pos two⟩
    · exact ⟨['/'], .inl rfl, by simp [two], if_neg two⟩

theorem isAbsoluteForm_absolute {directory : Text} (normal : IsNormal directory) (path : Text) :
    IsAbsoluteForm directory path (absolute directory path) := by
  obtain ⟨root, isRoot, length_iff, base⟩ := normal.exists_root path
  have proper : ∀ name ∈ if Path.isAbsolute path then [] else components directory,
      isComponent name = true ∧ '/' ∉ name := by
    intro name member
    split at member
    · exact absurd member List.not_mem_nil
    · exact proper_of_mem_components member
  obtain ⟨spelled, whole⟩ := absolute_eq_spell isRoot proper base
  have starts := spelled.leadingSlashes_eq
  rw [whole]
  constructor
  · rw [isAbsolute_iff, starts]
    rcases isRoot with rfl | rfl
    · exact Nat.one_ne_zero
    · exact Nat.succ_ne_zero 1
  · rw [starts, length_iff]
  · exact spelled.here_notMem_parts
  · exact spelled.not_slashes_infix
  · exact spelled.components_eq
  · rw [spelled.isRoot_iff, spelled.endsInSlash_eq, Bool.or_eq_true, List.isEmpty_iff,
      Bool.and_eq_true, Bool.not_eq_true', List.isEmpty_eq_false_iff, and_or_right]
    exact and_iff_left (Classical.em _).symm
  · exact spelled.absolute_eq

end DocSamples.Path
