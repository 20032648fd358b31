import DocSamples.Proofs.Sample.Sections

/-!
Contract: prose has no influence on the samples of a document.

Owns:
- texts that differ in nothing but the wording of their prose;
- the roles of their lines, which are the same;
- what the samples of a document depend on, and that such texts have the same.

One line decides the role of the next, so a change could spread over all lines below it.  It
does not, for prose has one effect on the line below it, whatever it says.
-/

namespace DocSamples

/-- Two texts with the same lines, but where the first has prose, the second may have any
other prose that is not indented. -/
def DiffersInProse (text other : Text) : Prop :=
  ∀ position, (lines other)[position]? = (lines text)[position]? ∨
    isProseLine (lines text) position = true ∧
      ∃ prose : ProseLine, (lines other)[position]? = some prose.text

namespace DiffersInProse

variable {text other : Text}

private theorem length_eq (differs : DiffersInProse text other) :
    (lines other).length = (lines text).length := by
  apply Nat.le_antisymm
  · rcases differs (lines text).length with same | ⟨prose, _⟩
    · rw [List.getElem?_eq_none (le_refl _)] at same
      exact List.getElem?_eq_none_iff.1 same
    · rw [isProseLine, List.getElem?_eq_none (le_refl _)] at prose
      exact Bool.noConfusion prose
  · rcases differs (lines other).length with same | ⟨_, prose, there⟩
    · rw [List.getElem?_eq_none (le_refl _)] at same
      exact List.getElem?_eq_none_iff.1 same.symm
    · rw [List.getElem?_eq_none (le_refl _)] at there
      exact absurd there (by simp)

private theorem any_isEmpty_eq (differs : DiffersInProse text other) (position : Nat) :
    (lines other)[position]?.any List.isEmpty = (lines text)[position]?.any List.isEmpty := by
  rcases differs position with same | ⟨isProse, prose, there⟩
  · rw [same]
  · rw [isProseLine, Bool.and_eq_true, Option.any_eq_true] at isProse
    obtain ⟨⟨line, found, nonempty⟩, _⟩ := isProse
    rw [Bool.not_eq_true'] at nonempty
    rw [there, found, Option.any_some, Option.any_some, nonempty]
    exact List.isEmpty_eq_false_iff.2 prose.nonempty

/-- The same lines are code.  Prose that is reworded is not indented, and it was no code
before; what follows prose follows a line that is neither empty nor code in both texts. -/
theorem isCodeLine_eq (differs : DiffersInProse text other) (position : Nat) :
    isCodeLine (lines other) position = isCodeLine (lines text) position := by
  induction position with
  | zero =>
      rcases differs 0 with same | ⟨isProse, prose, there⟩
      · rw [isCodeLine, isCodeLine, same]
      · rw [isCodeLine_eq_false_of_prose isProse, isCodeLine, there]
        exact prose.notIndented
  | succ position inductionHypothesis =>
      rcases differs (position + 1) with same | ⟨isProse, prose, there⟩
      · rw [isCodeLine, isCodeLine, same, differs.any_isEmpty_eq, inductionHypothesis]
      · rw [isCodeLine_eq_false_of_prose isProse, isCodeLine, there, Option.any_some,
          prose.notIndented, Bool.false_and]

private theorem isProseLine_eq (differs : DiffersInProse text other) (position : Nat) :
    isProseLine (lines other) position = isProseLine (lines text) position := by
  rcases differs position with same | ⟨isProse, prose, there⟩
  · rw [isProseLine, isProseLine, same, differs.isCodeLine_eq]
  · rw [isProse, isProseLine, differs.isCodeLine_eq, isCodeLine_eq_false_of_prose isProse, there,
      Option.any_some, List.isEmpty_eq_false_iff.2 prose.nonempty]
    rfl

private theorem code_eq (differs : DiffersInProse text other) {position : Nat}
    (code : isCodeLine (lines text) position = true) :
    (lines other)[position]? = (lines text)[position]? := by
  rcases differs position with same | ⟨isProse, _⟩
  · exact same
  · rw [isCodeLine_eq_false_of_prose isProse] at code
    exact Bool.noConfusion code

end DiffersInProse

private theorem samplesOfBlocks_congr {lines others : List Text} {blocks : List (List Nat)}
    (same : ∀ block ∈ blocks, blockCode others block = blockCode lines block) (start : Nat) :
    samplesOfBlocks others start blocks = samplesOfBlocks lines start blocks := by
  induction blocks generalizing start with
  | nil => rfl
  | cons block blocks inductionHypothesis =>
      have here := same block List.mem_cons_self
      have later := inductionHypothesis fun other member =>
        same other (List.mem_cons_of_mem _ member)
      rw [samplesOfBlocks_cons, samplesOfBlocks_cons, here, later, later]

/-- The samples of a document depend on which lines are code, on which are prose, and on the
code lines themselves. -/
theorem blockSamples_congr {lines others : List Text} (length_eq : others.length = lines.length)
    (code : ∀ position, isCodeLine others position = isCodeLine lines position)
    (prose : ∀ position, isProseLine others position = isProseLine lines position)
    (same : ∀ position, isCodeLine lines position = true →
      others[position]? = lines[position]?) :
    blockSamples others = blockSamples lines := by
  have between : noProseBetween others = noProseBetween lines := by
    funext earlier later
    simp only [noProseBetween, prose]
  have blocks : codeBlocks others = codeBlocks lines := by
    rw [codeBlocks, codePositions, length_eq, funext code, between]
    rfl
  rw [blockSamples, blockSamples, blocks]
  apply samplesOfBlocks_congr
  intro block isBlock
  refine List.flatMap_congr fun position member => ?_
  rw [same position (isCodeLine_of_mem_codeBlocks isBlock member)]

theorem extract_of_differsInProse {text other : Text} (differs : DiffersInProse text other) :
    extract other = extract text := by
  rw [extract, extract, Scanner.samples_ofText, Scanner.samples_ofText]
  exact blockSamples_congr differs.length_eq differs.isCodeLine_eq differs.isProseLine_eq
    fun _ => differs.code_eq

end DocSamples
