import DocSamples.Proofs.Sample.Blocks

/-!
Contract: the scan of a document finds the samples of its blocks.

Owns:
- what a scanner knows in front of a line (`Scanner.Tracks`);
- the step: reading a line keeps that knowledge, and hands out the open block exactly
  where prose ends it;
- the run over all lines, and from it the samples of a text;
- the place of each sample in its text.
-/

namespace DocSamples

/-! ## Code and samples of blocks -/

theorem blockCode_eq_nil_iff (lines : List Text) (block : List Nat) :
    blockCode lines block = [] ↔ block = [] := by
  cases block <;> simp [blockCode, codeOfLine]

private theorem blockCode_append_singleton {lines : List Text} {position : Nat} {line : Text}
    (found : lines[position]? = some line) (block : List Nat) :
    blockCode lines (block ++ [position]) = blockCode lines block ++ codeOfLine line := by
  simp [blockCode, found]

private theorem samplesOfBlocks_nil (lines : List Text) (start : Nat) :
    samplesOfBlocks lines start [] = [] := rfl

theorem samplesOfBlocks_cons (lines : List Text) (start : Nat) (block : List Nat)
    (blocks : List (List Nat)) :
    samplesOfBlocks lines start (block :: blocks) =
      if isBlank (blockCode lines block) then
        samplesOfBlocks lines start blocks
      else
        ⟨blockCode lines block, firstLineNumber block, start⟩ ::
          samplesOfBlocks lines (start + 1) blocks := by
  cases blank : isBlank (blockCode lines block) <;> simp [samplesOfBlocks, blank]

/-! ## What a scanner knows -/

/-- Whether a line comes first or directly after an empty one. -/
def followsEmpty (lines : List Text) : (position : Nat) → Bool
  | 0 => true
  | position + 1 => lines[position]?.any List.isEmpty

/-- The scanner has read the lines before a position: its block is the one that is open
there. -/
structure Scanner.Tracks (lines : List Text) (position : Nat) (scanner : Scanner) : Prop where
  lineNumber_eq : scanner.lineNumber = position + 1
  block_eq : scanner.block = blockCode lines (openBlock lines position)
  blockLine_eq :
    openBlock lines position ≠ [] →
      scanner.blockLine = firstLineNumber (openBlock lines position)
  afterEmpty_eq : scanner.afterEmpty = followsEmpty lines position

/-- An indented line is code exactly if a block is open in front of it or it may open
one.  The line before decides: prose leaves no block open, code leaves one. -/
theorem isCodeLine_iff_open {lines : List Text} {position : Nat} {line : Text}
    (found : lines[position]? = some line) :
    isCodeLine lines position =
      (isIndented line && (!(openBlock lines position).isEmpty || followsEmpty lines position)) := by
  cases position with
  | zero => simp [isCodeLine, found, followsEmpty]
  | succ position =>
      have inside : position < lines.length := by
        have := (List.getElem?_eq_some_iff.1 found).1
        omega
      rw [isCodeLine, found, Option.any_some, followsEmpty]
      congr 1
      cases prose : isProseLine lines position with
      | true =>
          rw [openBlock_succ_of_prose prose, isCodeLine_eq_false_of_prose prose]
          simp
      | false =>
          rw [openBlock_succ prose]
          cases code : isCodeLine lines position with
          | true => simp
          | false =>
              have empty : lines[position]?.any List.isEmpty = true := by
                rw [isProseLine, code] at prose
                rw [List.getElem?_eq_getElem inside] at prose ⊢
                simpa using prose
              simp [empty]

namespace Scanner

variable {lines : List Text} {position : Nat} {scanner : Scanner}

theorem Tracks.takesCode_eq (tracks : scanner.Tracks lines position) :
    scanner.takesCode = (!(openBlock lines position).isEmpty || followsEmpty lines position) := by
  rw [takesCode, tracks.afterEmpty_eq, tracks.block_eq]
  congr 2
  rw [Bool.eq_iff_iff, List.isEmpty_iff, List.isEmpty_iff, blockCode_eq_nil_iff]

/-! ## Closing a block -/

@[simp] theorem close_block (scanner : Scanner) : scanner.close.2.block = [] := by
  rw [close]
  split <;> rfl

@[simp] theorem close_lineNumber (scanner : Scanner) :
    scanner.close.2.lineNumber = scanner.lineNumber := by
  rw [close]
  split <;> rfl

@[simp] theorem close_afterEmpty (scanner : Scanner) :
    scanner.close.2.afterEmpty = scanner.afterEmpty := by
  rw [close]
  split <;> rfl

/-- What closing hands out depends on the open block and on how many came before it. -/
theorem close_of_marks (scanner : Scanner) (afterEmpty : Bool) (lineNumber : Nat) :
    (close { scanner with afterEmpty, lineNumber }).1 = scanner.close.1 := by
  unfold close
  dsimp only
  split <;> rfl

theorem close_eq_some_iff {sample : Sample} :
    scanner.close.1 = some sample ↔
      isBlank scanner.block = false ∧
        sample = ⟨scanner.block, scanner.blockLine, scanner.handedOut⟩ := by
  unfold close
  cases blank : isBlank scanner.block with
  | true => simp
  | false => simp [eq_comm]

theorem open_of_pending {sample : Sample} (pending : scanner.close.1 = some sample) :
    scanner.block ≠ [] := by
  intro nothing
  have notBlank := (close_eq_some_iff.1 pending).1
  rw [nothing] at notBlank
  exact Bool.noConfusion notBlank

/-- The line of a block that is open is the first that no prose parts from here. -/
theorem Tracks.exists_first (tracks : scanner.Tracks lines position)
    (open_ : scanner.block ≠ []) :
    ∃ first ∈ openBlock lines position, scanner.blockLine = first + 1 := by
  rw [tracks.block_eq, ne_eq, blockCode_eq_nil_iff] at open_
  obtain ⟨first, others, shape⟩ := List.exists_cons_of_ne_nil open_
  rw [tracks.blockLine_eq open_, shape]
  exact ⟨first, List.mem_cons_self, rfl⟩

/-- Closing hands out the sample of the open block and counts it. -/
theorem close_samples (scanner : Scanner)
    (block_eq : scanner.block = blockCode lines (openBlock lines position))
    (blockLine_eq :
      openBlock lines position ≠ [] →
        scanner.blockLine = firstLineNumber (openBlock lines position))
    (blocks : List (List Nat)) :
    samplesOfBlocks lines scanner.handedOut
        ((openBlock lines position).splitBy (noProseBetween lines) ++ blocks) =
      scanner.close.1.toList ++ samplesOfBlocks lines scanner.close.2.handedOut blocks := by
  rw [splitBy_openBlock, close, block_eq]
  by_cases nothing : openBlock lines position = []
  · simp [nothing, blockCode, isBlank]
  · rw [if_neg nothing, List.singleton_append, samplesOfBlocks_cons, blockLine_eq nothing]
    cases blank : isBlank (blockCode lines (openBlock lines position)) <;> simp

/-! ## Reading a line -/

theorem readLine_of_empty (tracks : scanner.Tracks lines position)
    (found : lines[position]? = some []) :
    (scanner.readLine []).2.Tracks lines (position + 1) := by
  obtain ⟨notCode, notProse⟩ := not_code_not_prose_of_empty found
  have same : openBlock lines (position + 1) = openBlock lines position := by
    rw [openBlock_succ notProse, notCode]
    simp
  constructor
  · simp [readLine, tracks.lineNumber_eq]
  · simp [readLine, tracks.block_eq, same]
  · intro nonempty
    rw [same] at nonempty ⊢
    simpa [readLine] using tracks.blockLine_eq nonempty
  · simp [readLine, followsEmpty, found]

theorem readLine_of_code {line : Text} (tracks : scanner.Tracks lines position)
    (found : lines[position]? = some line) (code : isCodeLine lines position = true) :
    scanner.readLine line =
        (none, { scanner.addCode line with lineNumber := scanner.lineNumber + 1 }) ∧
      (scanner.readLine line).2.Tracks lines (position + 1) := by
  have accepted : (isIndented line && scanner.takesCode) = true := by
    rw [tracks.takesCode_eq, ← isCodeLine_iff_open found]
    exact code
  have nonempty : line.isEmpty = false :=
    List.isEmpty_eq_false_iff.2 (ne_nil_of_isIndented (Bool.and_eq_true_iff.1 accepted).1)
  have reads : scanner.readLine line =
      (none, { scanner.addCode line with lineNumber := scanner.lineNumber + 1 }) := by
    rw [readLine, nonempty, accepted]
    rfl
  have grown : openBlock lines (position + 1) = openBlock lines position ++ [position] := by
    have notProse : isProseLine lines position = false := by
      by_contra prose
      exact absurd code (by simp [isCodeLine_eq_false_of_prose (by simpa using prose)])
    rw [openBlock_succ notProse, code]
    simp
  refine ⟨reads, ?_⟩
  rw [reads]
  constructor
  · simp [tracks.lineNumber_eq]
  · simp [addCode, tracks.block_eq, grown, blockCode_append_singleton found]
  · intro _
    rw [grown]
    by_cases nothing : openBlock lines position = []
    · simp [addCode, tracks.block_eq, nothing, blockCode, firstLineNumber, tracks.lineNumber_eq]
    · have kept := tracks.blockLine_eq nothing
      obtain ⟨first, others, shape⟩ := List.exists_cons_of_ne_nil nothing
      have started : scanner.block.isEmpty = false := by
        rw [tracks.block_eq, List.isEmpty_eq_false_iff, ne_eq, blockCode_eq_nil_iff]
        exact nothing
      simp [addCode, started, kept, shape, firstLineNumber]
  · simp [addCode, followsEmpty, found, nonempty]

/-- Any other line closes the open block. -/
theorem readLine_of_refused {line : Text} (nonempty : line ≠ [])
    (refused : (isIndented line && scanner.takesCode) = false) :
    scanner.readLine line =
      let closed := { scanner with afterEmpty := false }.close
      (closed.1, { closed.2 with lineNumber := closed.2.lineNumber + 1 }) := by
  unfold readLine
  rw [List.isEmpty_eq_false_iff.2 nonempty, refused]
  rfl

theorem readLine_of_prose {line : Text} (tracks : scanner.Tracks lines position)
    (found : lines[position]? = some line) (prose : isProseLine lines position = true) :
    (scanner.readLine line).2.Tracks lines (position + 1) ∧
      ∀ blocks,
        samplesOfBlocks lines scanner.handedOut
            ((openBlock lines position).splitBy (noProseBetween lines) ++ blocks) =
          (scanner.readLine line).1.toList ++
            samplesOfBlocks lines (scanner.readLine line).2.handedOut blocks := by
  have refused : (isIndented line && scanner.takesCode) = false := by
    rw [tracks.takesCode_eq, ← isCodeLine_iff_open found]
    exact isCodeLine_eq_false_of_prose prose
  have nonempty : line ≠ [] := by
    rw [isProseLine, found, Option.any_some, Bool.and_eq_true] at prose
    simpa using prose.1
  have closedUp : openBlock lines (position + 1) = [] := openBlock_succ_of_prose prose
  rw [readLine_of_refused nonempty refused]
  constructor
  · constructor
    · simp [tracks.lineNumber_eq]
    · simp [closedUp, blockCode]
    · exact fun open_ => absurd closedUp open_
    · simp [followsEmpty, found, nonempty]
  · intro blocks
    exact close_samples { scanner with afterEmpty := false } tracks.block_eq
      tracks.blockLine_eq blocks

theorem Tracks.readLine {line : Text} (tracks : scanner.Tracks lines position)
    (found : lines[position]? = some line) :
    (scanner.readLine line).2.Tracks lines (position + 1) := by
  cases prose : isProseLine lines position with
  | true => exact (readLine_of_prose tracks found prose).1
  | false =>
      cases code : isCodeLine lines position with
      | true => exact (readLine_of_code tracks found code).2
      | false =>
          obtain rfl := eq_nil_of_not_code_not_prose found code prose
          exact readLine_of_empty tracks found

/-! ## The run -/

/-- From a line on, the scan finds the samples of the open block and of all later ones. -/
theorem samplesFrom_eq (tracks : scanner.Tracks lines position) (remaining : List Text)
    (rest : remaining = lines.drop position) :
    scanner.samplesFrom remaining =
      samplesOfBlocks lines scanner.handedOut (blocksFrom lines position) := by
  induction remaining generalizing scanner position with
  | nil =>
      have beyond : lines.length ≤ position := List.drop_eq_nil_iff.1 rest.symm
      have closed := close_samples scanner tracks.block_eq tracks.blockLine_eq []
      rw [List.append_nil, samplesOfBlocks_nil, List.append_nil] at closed
      rw [samplesFrom, blocksFrom_of_length_le beyond, closed]
  | cons line remaining inductionHypothesis =>
      have found : lines[position]? = some line := by
        rw [← List.head?_drop, ← rest, List.head?_cons]
      have inside : position < lines.length := (List.getElem?_eq_some_iff.1 found).1
      have others : remaining = lines.drop (position + 1) := by
        rw [← List.tail_drop, ← rest, List.tail_cons]
      rw [samplesFrom]
      -- Prose ends the open block; a line of code and an empty line leave it open.
      cases prose : isProseLine lines position with
      | true =>
          obtain ⟨tracksNext, handsOut⟩ := readLine_of_prose tracks found prose
          rw [inductionHypothesis tracksNext others, blocksFrom_of_prose inside prose, handsOut]
      | false =>
          rw [blocksFrom_of_not_prose inside prose]
          cases code : isCodeLine lines position with
          | true =>
              obtain ⟨reads, tracksNext⟩ := readLine_of_code tracks found code
              rw [inductionHypothesis tracksNext others, reads]
              simp [addCode]
          | false =>
              obtain rfl := eq_nil_of_not_code_not_prose found code prose
              rw [inductionHypothesis (readLine_of_empty tracks found) others]
              simp [readLine]

end Scanner

private theorem Scanner.tracks_ofText (text : Text) : (ofText text).Tracks (lines text) 0 := by
  constructor <;> simp [ofText, openBlock, blockCode, followsEmpty]

theorem Scanner.samples_ofText (text : Text) :
    (ofText text).samples = blockSamples (lines text) := by
  have run := samplesFrom_eq (tracks_ofText text) (lines text) (by simp)
  rw [blocksFrom_zero] at run
  exact run

/-- The samples of a text are those of the blocks between its prose: every block that is
not white space, in order, with its code, the number of its first line, and its place
among these blocks. -/
theorem extract_eq_blockSamples (text : Text) : extract text = blockSamples (lines text) :=
  Scanner.samples_ofText text

/-! ## Where samples stand -/

private theorem samplesOfBlocks_getElem? {lines : List Text} {start index : Nat}
    {blocks : List (List Nat)} {sample : Sample}
    (found : (samplesOfBlocks lines start blocks)[index]? = some sample) :
    ∃ block ∈ blocks,
      sample = ⟨blockCode lines block, firstLineNumber block, start + index⟩ := by
  simp only [samplesOfBlocks, List.getElem?_map, List.getElem?_zipIdx, Option.map_eq_some_iff]
    at found
  obtain ⟨_, ⟨block, kept, rfl⟩, rfl⟩ := found
  have member := List.mem_of_getElem? kept
  exact ⟨block, (List.mem_filter.1 member).1, rfl⟩

/-- The lines of a block are code. -/
theorem isCodeLine_of_mem_codeBlocks {lines : List Text} {block : List Nat} {position : Nat}
    (isBlock : block ∈ codeBlocks lines) (member : position ∈ block) :
    isCodeLine lines position = true := by
  have isCode : position ∈ codePositions lines := by
    rw [← List.flatten_splitBy (noProseBetween lines) (codePositions lines)]
    exact List.mem_flatten.2 ⟨block, isBlock, member⟩
  rw [codePositions, List.mem_filter] at isCode
  exact isCode.2

/-- A block starts with a code line. -/
theorem exists_of_mem_codeBlocks {lines : List Text} {block : List Nat}
    (member : block ∈ codeBlocks lines) :
    ∃ first others, block = first :: others ∧ isCodeLine lines first = true := by
  cases block with
  | nil => exact absurd member (List.nil_notMem_splitBy _ _)
  | cons first others =>
      exact ⟨first, others, rfl, isCodeLine_of_mem_codeBlocks member List.mem_cons_self⟩

/-- The code of a block starts with its first line. -/
theorem head?_lines_blockCode {text : Text} {first : Nat} {line : Text}
    (found : (lines text)[first]? = some line) (others : List Nat) :
    (lines (blockCode (lines text) (first :: others))).head? = some (line.drop indentWidth) := by
  have noSeparator : '\n' ∉ line.drop indentWidth := by
    intro inside
    have piece : line ∈ splitAt '\n' text := List.mem_of_getElem? found
    exact notMem_of_mem_splitAt '\n' piece (List.mem_of_mem_drop inside)
  have shape : blockCode (lines text) (first :: others) =
      line.drop indentWidth ++ '\n' :: blockCode (lines text) others := by
    simp [blockCode, found, codeOfLine]
  rw [shape, lines, splitAt_append_separator, splitAt_of_notMem _ noSeparator]
  rfl

/-- The sample at an index is that of a block, with this index. -/
theorem extract_getElem? {text : Text} {index : Nat} {sample : Sample}
    (found : (extract text)[index]? = some sample) :
    ∃ block ∈ codeBlocks (lines text),
      sample = ⟨blockCode (lines text) block, firstLineNumber block, index⟩ := by
  rw [extract, Scanner.samples_ofText, blockSamples] at found
  obtain ⟨block, isBlock, shape⟩ := samplesOfBlocks_getElem? found
  rw [Nat.zero_add] at shape
  exact ⟨block, isBlock, shape⟩

/-- The sample at an index has that index; the line that it gives is there, and is
the indentation and then the first line of its code. -/
theorem extract_position {text : Text} {index : Nat} {sample : Sample}
    (found : (extract text)[index]? = some sample) :
    sample.index = index ∧
      ∃ first, 0 < sample.line ∧ (lines text)[sample.line - 1]? = some (indent ++ first) ∧
        (lines sample.code).head? = some first := by
  obtain ⟨block, isBlock, rfl⟩ := extract_getElem? found
  obtain ⟨first, others, rfl, isCode⟩ := exists_of_mem_codeBlocks isBlock
  obtain ⟨code, there⟩ := exists_code_of_isCodeLine isCode
  exact ⟨rfl, code, Nat.succ_pos _, there, head?_lines_blockCode there others⟩

end DocSamples
