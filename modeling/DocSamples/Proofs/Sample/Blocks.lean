import DocSamples.Sample.Scanner
import Mathlib.Data.List.SplitBy

/-!
Contract: the samples of a document, said of its lines and without a scan.

Owns:
- which lines are code and which are prose, by their position;
- the blocks of code lines and the samples that they make;
- the block that is open in front of a line, and the blocks that end behind it.

Does not own: the scan, which finds the same samples (`Proofs/Sample/Extraction`).

Positions count from zero.  Every list of positions here is increasing, so two code
lines that are neighbours in one have no code line between them in the document.
-/

namespace DocSamples

/-! ## Code and prose -/

/-- Whether the line at a position is code: it is indented, and it is the first line
or follows one that is empty or is code itself. -/
def isCodeLine (lines : List Text) : (position : Nat) → Bool
  | 0 => lines[0]?.any isIndented
  | position + 1 =>
    lines[position + 1]?.any isIndented &&
      (lines[position]?.any List.isEmpty || isCodeLine lines position)

/-- Whether the line at a position is prose: it is neither empty nor code. -/
def isProseLine (lines : List Text) (position : Nat) : Bool :=
  lines[position]?.any (!·.isEmpty) && !isCodeLine lines position

def noProseBetween (lines : List Text) (earlier later : Nat) : Bool :=
  decide (∀ position < later, earlier < position → isProseLine lines position = false)

theorem noProseBetween_iff (lines : List Text) (earlier later : Nat) :
    noProseBetween lines earlier later = true ↔
      ∀ position < later, earlier < position → isProseLine lines position = false := by
  simp [noProseBetween]

theorem ne_nil_of_isIndented {line : Text} (indented : isIndented line = true) : line ≠ [] := by
  rintro rfl
  exact absurd indented (by decide)

/-- A code line is there and is indented. -/
theorem isIndented_of_isCodeLine {lines : List Text} {position : Nat}
    (code : isCodeLine lines position = true) :
    ∃ line, lines[position]? = some line ∧ isIndented line = true := by
  rw [← Option.any_eq_true]
  cases position with
  | zero => exact code
  | succ position =>
      rw [isCodeLine, Bool.and_eq_true] at code
      exact code.1

/-- A code line is the indentation and then its code. -/
theorem exists_code_of_isCodeLine {lines : List Text} {position : Nat}
    (code : isCodeLine lines position = true) :
    ∃ code, lines[position]? = some (indent ++ code) := by
  obtain ⟨line, there, indented⟩ := isIndented_of_isCodeLine code
  obtain ⟨code, rfl⟩ := List.isPrefixOf_iff_prefix.1 indented
  exact ⟨code, there⟩

/-- No line is both code and prose. -/
theorem isCodeLine_eq_false_of_prose {lines : List Text} {position : Nat}
    (prose : isProseLine lines position = true) : isCodeLine lines position = false := by
  rw [isProseLine, Bool.and_eq_true] at prose
  simpa using prose.2

/-- An empty line is neither. -/
theorem not_code_not_prose_of_empty {lines : List Text} {position : Nat}
    (empty : lines[position]? = some []) :
    isCodeLine lines position = false ∧ isProseLine lines position = false := by
  constructor
  · by_contra code
    obtain ⟨line, found, indented⟩ := isIndented_of_isCodeLine (by simpa using code)
    rw [empty, Option.some.injEq] at found
    exact ne_nil_of_isIndented indented found.symm
  · simp [isProseLine, empty]

/-- Only an empty line is neither. -/
theorem eq_nil_of_not_code_not_prose {lines : List Text} {position : Nat} {line : Text}
    (found : lines[position]? = some line) (notCode : isCodeLine lines position = false)
    (notProse : isProseLine lines position = false) : line = [] := by
  rw [isProseLine, notCode, found] at notProse
  simpa using notProse

/-! ## Blocks -/

def codePositions (lines : List Text) : List Nat :=
  (List.range lines.length).filter (isCodeLine lines)

/-- The blocks of code lines, each as large as it can be: neighbours belong to one
block exactly when no prose stands between them. -/
def codeBlocks (lines : List Text) : List (List Nat) :=
  (codePositions lines).splitBy (noProseBetween lines)

/-- The code of a block: what each of its lines adds, in order. -/
def blockCode (lines : List Text) (block : List Nat) : Text :=
  block.flatMap fun position => codeOfLine (lines[position]?.getD [])

def firstLineNumber (block : List Nat) : Nat :=
  block.headD 0 + 1

/-- The samples that blocks make, numbered from `start`: a block of white space makes
none and takes no number. -/
def samplesOfBlocks (lines : List Text) (start : Nat) (blocks : List (List Nat)) : List Sample :=
  ((blocks.filter fun block => !isBlank (blockCode lines block)).zipIdx start).map
    fun (block, index) => ⟨blockCode lines block, firstLineNumber block, index⟩

/-- The samples of a document, given by its lines. -/
def blockSamples (lines : List Text) : List Sample :=
  samplesOfBlocks lines 0 (codeBlocks lines)

/-! ## The blocks behind a line -/

/-- The block that is open in front of a line: the code lines before it that no prose
parts from it. -/
def openBlock (lines : List Text) (position : Nat) : List Nat :=
  (List.range position).filter fun earlier =>
    isCodeLine lines earlier && noProseBetween lines earlier position

def codePositionsFrom (lines : List Text) (position : Nat) : List Nat :=
  (List.range' position (lines.length - position)).filter (isCodeLine lines)

/-- The open block, as far as later lines add to it, and all blocks after it. -/
def blocksFrom (lines : List Text) (position : Nat) : List (List Nat) :=
  (openBlock lines position ++ codePositionsFrom lines position).splitBy (noProseBetween lines)

theorem blocksFrom_zero (lines : List Text) : blocksFrom lines 0 = codeBlocks lines := by
  simp [blocksFrom, openBlock, codePositionsFrom, codeBlocks, codePositions,
    List.range_eq_range']

theorem mem_openBlock {lines : List Text} {position earlier : Nat} :
    earlier ∈ openBlock lines position ↔
      earlier < position ∧ isCodeLine lines earlier = true ∧
        noProseBetween lines earlier position = true := by
  simp [openBlock]

theorem openBlock_succ_of_prose {lines : List Text} {position : Nat}
    (prose : isProseLine lines position = true) : openBlock lines (position + 1) = [] := by
  rw [List.eq_nil_iff_forall_not_mem]
  intro earlier member
  obtain ⟨before, code, open_⟩ := mem_openBlock.1 member
  rcases Nat.lt_succ_iff_lt_or_eq.1 before with strictly | rfl
  · have notProse := (noProseBetween_iff _ _ _).1 open_ position (Nat.lt_succ_self _) strictly
    exact absurd prose (by simp [notProse])
  · exact absurd code (by simp [isCodeLine_eq_false_of_prose prose])

/-- A line that is not prose leaves the open block open, and joins it if it is code. -/
theorem openBlock_succ {lines : List Text} {position : Nat}
    (notProse : isProseLine lines position = false) :
    openBlock lines (position + 1) =
      openBlock lines position ++ if isCodeLine lines position then [position] else [] := by
  have between : ∀ earlier < position,
      noProseBetween lines earlier (position + 1) = noProseBetween lines earlier position := by
    intro earlier before
    rw [Bool.eq_iff_iff, noProseBetween_iff, noProseBetween_iff]
    constructor
    · intro free later inside
      exact free later (by omega)
    · intro free later inside after
      rcases Nat.lt_succ_iff_lt_or_eq.1 inside with strictly | rfl
      · exact free later strictly after
      · exact notProse
  have itself : noProseBetween lines position (position + 1) = true := by
    rw [noProseBetween_iff]
    intro later inside after
    omega
  rw [openBlock, List.range_succ, List.filter_append, openBlock]
  congr 1
  · refine List.filter_congr fun earlier member => ?_
    rw [between earlier (List.mem_range.1 member)]
  · cases code : isCodeLine lines position <;> simp [code, itself]

theorem codePositionsFrom_of_lt {lines : List Text} {position : Nat}
    (inside : position < lines.length) :
    codePositionsFrom lines position =
      (if isCodeLine lines position then [position] else []) ++
        codePositionsFrom lines (position + 1) := by
  obtain ⟨count, more⟩ : ∃ count, lines.length - position = count + 1 :=
    ⟨lines.length - position - 1, by omega⟩
  have fewer : lines.length - (position + 1) = count := by omega
  rw [codePositionsFrom, codePositionsFrom, more, fewer, List.range'_succ, List.filter_cons]
  split <;> simp

private theorem le_of_mem_codePositionsFrom {lines : List Text} {position later : Nat}
    (member : later ∈ codePositionsFrom lines position) : position ≤ later := by
  rw [codePositionsFrom, List.mem_filter, List.mem_range'_1] at member
  exact member.1.1

theorem blocksFrom_of_not_prose {lines : List Text} {position : Nat}
    (inside : position < lines.length) (notProse : isProseLine lines position = false) :
    blocksFrom lines position = blocksFrom lines (position + 1) := by
  rw [blocksFrom, blocksFrom, codePositionsFrom_of_lt inside, openBlock_succ notProse,
    List.append_assoc]

/-- Prose parts the open block from all code after it. -/
theorem blocksFrom_of_prose {lines : List Text} {position : Nat}
    (inside : position < lines.length) (prose : isProseLine lines position = true) :
    blocksFrom lines position =
      (openBlock lines position).splitBy (noProseBetween lines) ++
        blocksFrom lines (position + 1) := by
  have noCode := isCodeLine_eq_false_of_prose prose
  rw [blocksFrom, blocksFrom, codePositionsFrom_of_lt inside, openBlock_succ_of_prose prose]
  simp only [noCode, Bool.false_eq_true, ↓reduceIte, List.nil_append]
  refine List.splitBy_append fun earlier isLast later isFirst => ?_
  have before := (mem_openBlock.1 (List.mem_of_mem_getLast? isLast)).1
  have after := le_of_mem_codePositionsFrom (List.mem_of_mem_head? isFirst)
  rw [← Bool.not_eq_true, noProseBetween_iff]
  intro free
  have notProse := free position (by omega) before
  exact absurd prose (by simp [notProse])

theorem blocksFrom_of_length_le {lines : List Text} {position : Nat}
    (beyond : lines.length ≤ position) :
    blocksFrom lines position =
      (openBlock lines position).splitBy (noProseBetween lines) := by
  have none : lines.length - position = 0 := by omega
  simp [blocksFrom, codePositionsFrom, none]

/-- The open block is one block, unless it is empty. -/
theorem splitBy_openBlock (lines : List Text) (position : Nat) :
    (openBlock lines position).splitBy (noProseBetween lines) =
      if openBlock lines position = [] then [] else [openBlock lines position] := by
  split
  next empty => rw [empty, List.splitBy_nil]
  next nonempty =>
    refine List.splitBy_of_isChain nonempty (List.Pairwise.isChain ?_)
    refine List.pairwise_of_forall_mem_list fun earlier member later laterMember => ?_
    have free := (noProseBetween_iff _ _ _).1 (mem_openBlock.1 member).2.2
    have before := (mem_openBlock.1 laterMember).1
    rw [noProseBetween_iff]
    intro position inside
    exact free position (by omega)

end DocSamples
