import DocSamples.Proofs.Path.Absolute

/-!
Contract: paths without their extension.

Owns:
- the stem of a name, by the last dot in it;
- what is left of a path, by its last component;
- the absolute forms of a path and of what is left of it.
-/

namespace DocSamples.Path

/-! ## Stems -/

theorem dropWhile_dotless {reversed : Text} (dotless : '.' ∉ reversed) (rest : Text) :
    (reversed ++ rest).dropWhile (· != '.') = rest.dropWhile (· != '.') := by
  apply List.dropWhile_append_of_pos
  intro character member
  rw [bne_iff_ne]
  rintro rfl
  exact dotless member

/-- The stem ends in front of the last dot. -/
theorem stem?_append {stem extension : Text} (nonempty : stem ≠ []) (dotless : '.' ∉ extension) :
    stem? (stem ++ '.' :: extension) = some stem := by
  have reversed : (stem ++ '.' :: extension).reverse =
      extension.reverse ++ '.' :: stem.reverse := by
    rw [List.reverse_append, List.reverse_cons, List.append_assoc, List.singleton_append]
  have upToDot : ('.' :: stem.reverse).reverse = stem ++ ['.'] := by
    rw [List.reverse_cons, List.reverse_reverse]
  have long : ((stem ++ ['.']).length == 1) = false := by
    rw [beq_eq_false_iff_ne, List.length_append]
    have one := List.length_pos_iff.2 nonempty
    simp only [List.length_singleton]
    omega
  unfold stem?
  rw [reversed, dropWhile_dotless (fun member => dotless (List.mem_reverse.1 member)),
    List.dropWhile_cons, bne_self_eq_false, if_neg nofun, upToDot]
  split
  next empty => exact absurd empty (List.append_ne_nil_of_right_ne_nil _ (List.cons_ne_nil _ _))
  next => rw [long, if_neg nofun, List.dropLast_concat]

private theorem stem?_of_dotless {name : Text} (dotless : '.' ∉ name.tail) : stem? name = none := by
  cases name with
  | nil => rfl
  | cons first rest =>
      rw [List.tail_cons] at dotless
      unfold stem?
      rw [List.reverse_cons,
        dropWhile_dotless (fun member => dotless (List.mem_reverse.1 member))]
      by_cases dot : first = '.'
      · rw [dot]
        rfl
      · have kept : (first != '.') = true := bne_iff_ne.2 dot
        rw [List.dropWhile_cons, kept, if_pos rfl]
        rfl

/-- A dot behind the first character parts a stem from an extension. -/
theorem exists_stem {name : Text} (dotted : '.' ∈ name.tail) :
    ∃ stem extension, name = stem ++ '.' :: extension ∧ stem ≠ [] ∧ '.' ∉ extension := by
  cases name with
  | nil => exact absurd dotted List.not_mem_nil
  | cons first rest =>
      obtain ⟨after, before, shape, dotless⟩ :=
        List.eq_append_cons_of_mem (List.mem_reverse.2 dotted)
      have spelled : rest = before.reverse ++ '.' :: after.reverse := by
        have reversed := congrArg List.reverse shape
        rw [List.reverse_reverse, List.reverse_append, List.reverse_cons, List.append_assoc,
          List.singleton_append] at reversed
        exact reversed
      refine ⟨first :: before.reverse, after.reverse, ?_, List.cons_ne_nil _ _, ?_⟩
      · rw [spelled]
        rfl
      · exact fun member => dotless (List.mem_reverse.1 member)

/-! ## What is left of a path -/

theorem isName_iff (part : Text) : isName part = true ↔ isComponent part = true ∧ part ≠ up := by
  unfold isName
  rw [Bool.and_eq_true, bne_iff_ne]

theorem withoutExtension_of_components_eq_nil {path : Text} (nothing : components path = []) :
    withoutExtension path = path := by
  rcases endsIn_or_components_eq_nil path with ⟨front, name, trailing, ends⟩ | ⟨-, improper⟩
  · rw [ends.components_eq] at nothing
    exact absurd nothing (List.append_ne_nil_of_right_ne_nil _ (List.cons_ne_nil _ _))
  · have noName : isName (cut path).name = false := by
      rw [isName, improper, Bool.false_and]
    unfold withoutExtension
    dsimp only
    rw [noName]
    rfl

namespace EndsIn

variable {path front name trailing : Text}

theorem withoutExtension_up (ends : EndsIn path front up trailing) :
    withoutExtension path = path := by
  unfold withoutExtension
  rw [ends.cut_eq]
  rfl

theorem withoutExtension_dotless (ends : EndsIn path front name trailing)
    (dotless : '.' ∉ name.tail) : withoutExtension path = front ++ name := by
  have named : isName name = true := by
    refine (isName_iff name).2 ⟨ends.proper, ?_⟩
    rintro rfl
    exact dotless List.mem_cons_self
  unfold withoutExtension
  rw [ends.cut_eq]
  dsimp only
  rw [named, stem?_of_dotless dotless]
  rfl

/-- A name with a stem is not the component that goes up, unless the stem is a dot. -/
theorem ne_up_of_stem {stem extension : Text} (nonempty : stem ≠ []) (notHere : stem ≠ here) :
    stem ++ '.' :: extension ≠ up := by
  intro same
  cases stem with
  | nil => exact nonempty rfl
  | cons first rest =>
      obtain ⟨rfl, others⟩ := List.cons.inj same
      cases rest with
      | nil => exact notHere rfl
      | cons next rest => exact absurd (List.cons.inj others).2 (by simp)

theorem withoutExtension_eq {stem extension : Text}
    (ends : EndsIn path front (stem ++ '.' :: extension) trailing) (dotless : '.' ∉ extension)
    (nonempty : stem ≠ []) (notUp : stem ++ '.' :: extension ≠ up) :
    withoutExtension path =
      front ++ if stem == here && trailing.isEmpty then up else stem := by
  have named : isName (stem ++ '.' :: extension) = true := (isName_iff _).2 ⟨ends.proper, notUp⟩
  unfold withoutExtension
  rw [ends.cut_eq]
  dsimp only
  rw [named, stem?_append nonempty dotless, Bool.not_true, if_neg nofun]
  dsimp only
  split
  · rfl
  · rfl

theorem withoutExtension_stem {stem extension : Text}
    (ends : EndsIn path front (stem ++ '.' :: extension) trailing) (dotless : '.' ∉ extension)
    (nonempty : stem ≠ []) (notHere : stem ≠ here) : withoutExtension path = front ++ stem := by
  have differs : (stem == here) = false := beq_eq_false_iff_ne.2 notHere
  rw [ends.withoutExtension_eq dotless nonempty (ne_up_of_stem nonempty notHere), differs]
  rfl

/-- Something is left of a name, and no slash in it. -/
theorem exists_withoutExtension (ends : EndsIn path front name trailing) (notUp : name ≠ up) :
    ∃ short, withoutExtension path = front ++ short ∧ short ≠ [] ∧ '/' ∉ short := by
  by_cases dotted : '.' ∈ name.tail
  · obtain ⟨stem, extension, rfl, nonempty, dotless⟩ := exists_stem dotted
    refine ⟨_, ends.withoutExtension_eq dotless nonempty notUp, ?_, ?_⟩
    · split
      · exact List.cons_ne_nil _ _
      · exact nonempty
    · split
      · decide
      · exact fun member => ends.slashless (List.mem_append_left _ member)
  · exact ⟨name, ends.withoutExtension_dotless dotted, ((isComponent_iff name).1 ends.proper).1,
      ends.slashless⟩

end EndsIn

/-- A path is left as it is, or cut in its last component and then something is left of that. -/
theorem withoutExtension_cases (path : Text) :
    withoutExtension path = path ∨
      ∃ front name trailing short, EndsIn path front name trailing ∧
        withoutExtension path = front ++ short ∧ short ≠ [] ∧ '/' ∉ short := by
  rcases endsIn_or_components_eq_nil path with ⟨front, name, trailing, ends⟩ | ⟨nothing, -⟩
  · by_cases isUp : name = up
    · subst isUp
      exact .inl ends.withoutExtension_up
    · obtain ⟨short, cuts⟩ := ends.exists_withoutExtension isUp
      exact .inr ⟨front, name, trailing, short, ends, cuts⟩
  · exact .inl (withoutExtension_of_components_eq_nil nothing)

theorem withoutExtension_eq_nil_iff (path : Text) : withoutExtension path = [] ↔ path = [] := by
  rcases withoutExtension_cases path with same | ⟨front, name, trailing, short, ends, left, some, -⟩
  · rw [same]
  · have nonempty := ((isComponent_iff name).1 ends.proper).1
    rw [left, ends.spelled]
    simp [some, nonempty]

/-- Whether a path starts at the root does not depend on its last component. -/
theorem isAbsolute_append (front : Text) {last : Text} (nonempty : last ≠ [])
    (slashless : '/' ∉ last) : isAbsolute (front ++ last) = isAbsolute front := by
  cases front with
  | nil =>
      obtain ⟨first, rest, rfl⟩ := List.exists_cons_of_ne_nil nonempty
      show (some first == some '/') = false
      rw [beq_eq_false_iff_ne]
      intro same
      exact slashless (Option.some.inj same ▸ List.mem_cons_self)
  | cons first rest => rfl

theorem EndsIn.isAbsolute_eq {path front name trailing : Text}
    (ends : EndsIn path front name trailing) : isAbsolute path = isAbsolute front := by
  obtain ⟨nonempty, -⟩ := (isComponent_iff name).1 ends.proper
  rw [ends.spelled, ← isAbsolute_append front nonempty ends.slashless]
  have first := List.isSome_head?.2 (List.append_ne_nil_of_right_ne_nil front nonempty)
  unfold isAbsolute
  rw [List.head?_append, Option.or_of_isSome first]

theorem isAbsolute_withoutExtension (path : Text) :
    isAbsolute (withoutExtension path) = isAbsolute path := by
  rcases withoutExtension_cases path with
    same | ⟨front, name, trailing, short, ends, left, some, slashless⟩
  · rw [same]
  · rw [left, isAbsolute_append front some slashless, ends.isAbsolute_eq]

/-! ## Absolute forms -/

/-- The directory of a last component made absolute, with a slash at its end. -/
def absoluteFront (directory front : Text) : Text :=
  join ((components front).foldl join (absoluteBase directory front)) []

private theorem join_eq (path name : Text) : join path name = join path [] ++ name := by
  unfold join
  split
  · rw [List.append_nil]
  · exact (List.append_assoc path ['/'] name).symm

theorem endsInSlash_absoluteFront (directory front : Text) :
    endsInSlash (absoluteFront directory front) = true := by
  unfold absoluteFront join
  split
  next ends =>
    rw [List.append_nil]
    exact ends
  next => exact endsInSlash_append _ (List.cons_ne_nil _ _)

/-- The last component comes last, and only a slash may follow it. -/
theorem EndsIn.absolute_eq {path front name trailing : Text}
    (ends : EndsIn path front name trailing) (directory : Text) :
    absolute directory path =
      absoluteFront directory front ++ name ++ if endsInSlash path then ['/'] else [] := by
  obtain ⟨nonempty, -⟩ := (isComponent_iff name).1 ends.proper
  have joined : (components path).foldl join (absoluteBase directory path) =
      absoluteFront directory front ++ name := by
    rw [ends.components_eq, ends.absoluteBase_eq, List.foldl_append]
    exact join_eq _ name
  have open_ : endsInSlash (absoluteFront directory front ++ name) = false := by
    rw [endsInSlash_append _ nonempty, endsInSlash_of_notMem ends.slashless]
  unfold absolute
  dsimp only
  rw [joined, open_, Bool.not_false, Bool.and_true]
  split
  · rfl
  · exact (List.append_nil _).symm

/-- A path that is cut behind its last component, or in it, ends there. -/
theorem EndsIn.of_front {path front name trailing short : Text}
    (ends : EndsIn path front name trailing) (proper : isComponent short = true)
    (slashless : '/' ∉ short) : EndsIn (front ++ short) front short [] :=
  ⟨(List.append_nil _).symm, ends.parted, proper, slashless, .nil⟩

end DocSamples.Path
