import DocSamples.Path.Basic
import Mathlib.Data.List.TakeWhile

/-!
Contract: the components of a path, and its last one.

Owns:
- the parts and the components of joined paths;
- what may trail after the last component;
- a path cut around its last component, said without reading it from its end.

A path has no component exactly if it is slashes and dots.
-/

namespace DocSamples.Path

/-! ## Components -/

theorem isComponent_iff (part : Text) : isComponent part = true ↔ part ≠ [] ∧ part ≠ here := by
  unfold isComponent
  rw [Bool.and_eq_true, Bool.not_eq_true', List.isEmpty_eq_false_iff, bne_iff_ne]

theorem parts_append_slash (left right : Text) :
    parts (left ++ '/' :: right) = parts left ++ parts right :=
  splitAt_append_separator '/' left right

theorem components_append_slash (left right : Text) :
    components (left ++ '/' :: right) = components left ++ components right := by
  unfold components
  rw [parts_append_slash, List.filter_append]

theorem components_slash (path : Text) : components ('/' :: path) = components path :=
  components_append_slash [] path

private theorem components_of_notMem {part : Text} (slashless : '/' ∉ part) :
    components part = if isComponent part then [part] else [] := by
  unfold components parts
  rw [splitAt_of_notMem '/' slashless, List.filter_cons, List.filter_nil]

theorem exists_of_endsInSlash {path : Text} (ends : endsInSlash path = true) :
    ∃ front, path = front ++ ['/'] := by
  unfold endsInSlash at ends
  rw [beq_iff_eq, List.getLast?_eq_some_iff] at ends
  exact ends

private theorem components_append_of_endsInSlash {left : Text} (ends : endsInSlash left = true)
    (right : Text) : components (left ++ right) = components left ++ components right := by
  obtain ⟨front, rfl⟩ := exists_of_endsInSlash ends
  have none : components [] = [] := rfl
  rw [List.append_assoc, List.singleton_append, components_append_slash, components_append_slash,
    none, List.append_nil]

theorem proper_of_mem_components {path name : Text} (member : name ∈ components path) :
    isComponent name = true ∧ '/' ∉ name := by
  obtain ⟨isPart, isComponent⟩ := List.mem_filter.1 member
  exact ⟨isComponent, notMem_of_mem_splitAt '/' isPart⟩

/-! ## Joined paths -/

theorem endsInSlash_of_notMem {name : Text} (slashless : '/' ∉ name) :
    endsInSlash name = false := by
  unfold endsInSlash
  rw [beq_eq_false_iff_ne]
  exact fun last => slashless (List.mem_of_getLast? last)

theorem endsInSlash_append (front : Text) {back : Text} (nonempty : back ≠ []) :
    endsInSlash (front ++ back) = endsInSlash back := by
  unfold endsInSlash
  rw [List.getLast?_append, List.getLast?_eq_some_getLast nonempty, Option.some_or]

private theorem endsInSlash_join (path : Text) {name : Text} (nonempty : name ≠ [])
    (open_ : endsInSlash name = false) : endsInSlash (join path name) = false := by
  unfold join
  split
  · rw [endsInSlash_append _ nonempty, open_]
  · rw [endsInSlash_append _ (List.cons_ne_nil _ _), ← List.singleton_append,
      endsInSlash_append _ nonempty, open_]

/-- Joining names one after another is joining the path that they spell. -/
theorem foldl_join (root : Text) {first : Text} {names : List Text} (nonempty : first ≠ [])
    (open_ : endsInSlash first = false) (proper : ∀ name ∈ names, name ≠ [] ∧ '/' ∉ name) :
    names.foldl join (join root first) = join root (joinWith '/' (first :: names)) := by
  induction names generalizing first with
  | nil => rfl
  | cons name names inductionHypothesis =>
      obtain ⟨named, slashless⟩ := proper name List.mem_cons_self
      -- The root may end in a slash, a name does not, so every later join puts one in.
      have joined : join (join root first) name = join root (first ++ '/' :: name) := by
        have stillOpen := endsInSlash_join root nonempty open_
        unfold join at stillOpen ⊢
        rw [stillOpen]
        cases endsInSlash root with
        | true => exact List.append_assoc root first _
        | false => exact List.append_assoc root ('/' :: first) _
      have openAgain : endsInSlash (first ++ '/' :: name) = false := by
        rw [endsInSlash_append _ (List.cons_ne_nil _ _), ← List.singleton_append,
          endsInSlash_append _ named, endsInSlash_of_notMem slashless]
      have spelled : joinWith '/' ((first ++ '/' :: name) :: names) =
          joinWith '/' (first :: name :: names) := by
        cases names with
        | nil => rfl
        | cons next names => simp [joinWith]
      rw [List.foldl_cons, joined, inductionHypothesis (by simp) openAgain fun other member =>
        proper other (List.mem_cons_of_mem _ member), spelled]

/-! ## What trails -/

/-- What may trail after the last component: slashes, and dots after slashes. -/
inductive Trails : Text → Prop where
  | nil : Trails []
  | slash {trailing : Text} (before : Trails trailing) : Trails (trailing ++ ['/'])
  | here {trailing : Text} (before : Trails trailing) : Trails (trailing ++ ['/', '.'])

namespace Trails

variable {trailing : Text}

theorem components_append (trails : Trails trailing) (path : Text) :
    components (path ++ trailing) = components path := by
  have nothing : components [] = [] := rfl
  have stays : components ['.'] = [] := rfl
  induction trails with
  | nil => rw [List.append_nil]
  | slash _ inductionHypothesis =>
      rw [← List.append_assoc, components_append_slash, inductionHypothesis, nothing,
        List.append_nil]
  | here _ inductionHypothesis =>
      rw [← List.append_assoc, components_append_slash, inductionHypothesis, stays,
        List.append_nil]

theorem reverse_slash (trailing : Text) : (trailing ++ ['/']).reverse = '/' :: trailing.reverse :=
  List.reverse_append

theorem reverse_here (trailing : Text) :
    (trailing ++ ['/', '.']).reverse = '.' :: '/' :: trailing.reverse :=
  List.reverse_append

private theorem trailingFromEnd_append (trails : Trails trailing) (path : Text) :
    trailingFromEnd (trailing.reverse ++ path) = trailing.length + trailingFromEnd path := by
  induction trails with
  | nil => exact (Nat.zero_add _).symm
  | slash _ inductionHypothesis =>
      rw [reverse_slash, List.cons_append, trailingFromEnd, inductionHypothesis,
        List.length_append, List.length_singleton, Nat.add_right_comm]
  | here _ inductionHypothesis =>
      rw [reverse_here, List.cons_append, List.cons_append, trailingFromEnd, inductionHypothesis,
        List.length_append, Nat.add_right_comm]
      rfl

end Trails

/-- What trails is found from the end: nothing trails before it. -/
theorem exists_trails (reversed : Text) :
    ∃ trailing front, reversed = trailing.reverse ++ front ∧ Trails trailing ∧
      trailingFromEnd front = 0 := by
  fun_induction trailingFromEnd reversed with
  | case1 path inductionHypothesis =>
      obtain ⟨trailing, front, rfl, trails, nothing⟩ := inductionHypothesis
      exact ⟨trailing ++ ['/'], front, by rw [Trails.reverse_slash]; rfl, trails.slash, nothing⟩
  | case2 path inductionHypothesis =>
      obtain ⟨trailing, front, rfl, trails, nothing⟩ := inductionHypothesis
      exact ⟨trailing ++ ['/', '.'], front, by rw [Trails.reverse_here]; rfl, trails.here,
        nothing⟩
  | case3 path noSlash noHere =>
      exact ⟨[], path, rfl, .nil, trailingFromEnd.eq_3 path noSlash noHere⟩

theorem cut_append_trails {reversed trailing : Text} (nothing : trailingFromEnd reversed = 0)
    (trails : Trails trailing) :
    cut (reversed.reverse ++ trailing) =
      { front := (reversed.dropWhile (· != '/')).reverse
        name := (reversed.takeWhile (· != '/')).reverse
        trailing } := by
  unfold cut
  dsimp only
  rw [List.reverse_append, List.reverse_reverse, trails.trailingFromEnd_append, nothing,
    Nat.add_zero, ← List.length_reverse, List.drop_left, List.take_left, List.reverse_reverse]

/-! ## The last component -/

/-- A path cut around its last component: what stands before it is empty or ends in a slash. -/
structure EndsIn (path front name trailing : Text) : Prop where
  spelled : path = front ++ name ++ trailing
  parted : front = [] ∨ endsInSlash front = true
  proper : isComponent name = true
  slashless : '/' ∉ name
  trails : Trails trailing

namespace EndsIn

variable {path front name trailing : Text}

theorem components_eq (ends : EndsIn path front name trailing) :
    components path = components front ++ [name] := by
  have named : components name = [name] := by
    rw [components_of_notMem ends.slashless, if_pos ends.proper]
  rw [ends.spelled, ends.trails.components_append]
  rcases ends.parted with rfl | slash
  · exact named
  · rw [components_append_of_endsInSlash slash, named]

/-- Nothing trails in a component. -/
theorem trailingFromEnd_eq_zero (proper : isComponent name = true) (slashless : '/' ∉ name)
    (front : Text) : trailingFromEnd (name.reverse ++ front) = 0 := by
  obtain ⟨nonempty, notHere⟩ := (isComponent_iff name).1 proper
  have slashlessBack : '/' ∉ name.reverse := fun member => slashless (List.mem_reverse.1 member)
  obtain ⟨last, others, reversed⟩ :=
    List.exists_cons_of_ne_nil (List.reverse_ne_nil_iff.2 nonempty)
  rw [reversed] at slashlessBack ⊢
  apply trailingFromEnd.eq_3
  · intro rest same
    exact slashlessBack ((List.cons.inj same).1 ▸ List.mem_cons_self)
  · intro rest same
    obtain ⟨rfl, following⟩ := List.cons.inj same
    cases others with
    | nil => exact notHere (List.reverse_eq_iff.1 reversed)
    | cons next others =>
        obtain ⟨rfl, -⟩ := List.cons.inj following
        exact slashlessBack (List.mem_cons_of_mem _ List.mem_cons_self)

theorem cut_eq (ends : EndsIn path front name trailing) : cut path = ⟨front, name, trailing⟩ := by
  have whole : path = (name.reverse ++ front.reverse).reverse ++ trailing := by
    rw [ends.spelled, List.reverse_append, List.reverse_reverse, List.reverse_reverse]
  have inName : ∀ character ∈ name.reverse, (character != '/') = true := by
    intro character member
    rw [bne_iff_ne]
    rintro rfl
    exact ends.slashless (List.mem_reverse.1 member)
  have before : front.reverse.takeWhile (· != '/') = [] ∧
      front.reverse.dropWhile (· != '/') = front.reverse := by
    rcases ends.parted with rfl | slash
    · exact ⟨rfl, rfl⟩
    · obtain ⟨above, rfl⟩ := exists_of_endsInSlash slash
      rw [Trails.reverse_slash]
      exact ⟨rfl, rfl⟩
  rw [whole, cut_append_trails (trailingFromEnd_eq_zero ends.proper ends.slashless _) ends.trails,
    List.takeWhile_append_of_pos inName, List.dropWhile_append_of_pos inName, before.1, before.2,
    List.append_nil, List.reverse_reverse, List.reverse_reverse]

end EndsIn

/-- What is left from the first slash on is nothing or starts with it. -/
theorem dropWhile_shapes (reversed : Text) :
    reversed.dropWhile (· != '/') = [] ∨
      ∃ rest, reversed.dropWhile (· != '/') = '/' :: rest := by
  cases shape : reversed.dropWhile (· != '/') with
  | nil => exact .inl rfl
  | cons first rest =>
      have stops := List.head?_dropWhile_not (· != '/') reversed
      rw [shape, List.head?_cons] at stops
      have isSlash : first = '/' := by simpa using stops
      exact .inr ⟨rest, by rw [isSlash]⟩

private theorem components_eq_nil_of_cut {reversed : Text} (nothing : trailingFromEnd reversed = 0)
    (improper : isComponent (reversed.takeWhile (· != '/')).reverse = false) :
    components reversed.reverse = [] := by
  have short : reversed.takeWhile (· != '/') = [] ∨ reversed.takeWhile (· != '/') = here := by
    by_contra neither
    rw [not_or] at neither
    have proper : isComponent (reversed.takeWhile (· != '/')).reverse = true := by
      refine (isComponent_iff _).2 ⟨List.reverse_ne_nil_iff.2 neither.1, fun same => ?_⟩
      exact neither.2 (List.reverse_eq_iff.1 same)
    rw [improper] at proper
    exact Bool.noConfusion proper
  have parted : reversed.takeWhile (· != '/') ++ reversed.dropWhile (· != '/') = reversed :=
    List.takeWhile_append_dropWhile
  rcases dropWhile_shapes reversed with ended | ⟨rest, slash⟩
  · rw [ended, List.append_nil] at parted
    rw [← parted]
    rcases short with empty | dot
    · rw [empty]
      rfl
    · rw [dot]
      rfl
  · -- With a slash before it, nothing and a dot would have trailed.
    rw [slash] at parted
    rw [← parted] at nothing
    rcases short with empty | dot
    · rw [empty, List.nil_append, trailingFromEnd] at nothing
      exact absurd nothing (Nat.succ_ne_zero _)
    · rw [dot, here, List.singleton_append, trailingFromEnd] at nothing
      exact absurd nothing (Nat.succ_ne_zero _)

/-- A path has a last component, around which it is cut, or it is slashes and dots. -/
theorem endsIn_or_components_eq_nil (path : Text) :
    (∃ front name trailing, EndsIn path front name trailing) ∨
      components path = [] ∧ isComponent (cut path).name = false := by
  obtain ⟨trailing, reversed, spelled, trails, nothing⟩ := exists_trails path.reverse
  have whole : path = reversed.reverse ++ trailing := by
    rw [← List.reverse_reverse path, spelled, List.reverse_append, List.reverse_reverse]
  have cutThere := cut_append_trails nothing trails
  rw [← whole] at cutThere
  rw [cutThere]
  cases proper : isComponent (reversed.takeWhile (· != '/')).reverse with
  | true =>
      left
      refine ⟨(reversed.dropWhile (· != '/')).reverse, (reversed.takeWhile (· != '/')).reverse,
        trailing, ?_, ?_, proper, ?_, trails⟩
      · rw [← List.reverse_append, List.takeWhile_append_dropWhile]
        exact whole
      · rcases dropWhile_shapes reversed with ended | ⟨rest, slash⟩
        · left
          rw [ended]
          rfl
        · right
          rw [slash, List.reverse_cons, endsInSlash, List.getLast?_concat]
          rfl
      · intro member
        exact absurd (List.mem_takeWhile_imp (List.mem_reverse.1 member)) (by decide)
  | false =>
      right
      rw [whole, trails.components_append]
      exact ⟨components_eq_nil_of_cut nothing proper, rfl⟩

end DocSamples.Path
