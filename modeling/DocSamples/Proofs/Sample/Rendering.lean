import DocSamples.Proofs.Sample.Sections

/-!
Contract: extraction undoes rendering.

Owns:
- blocks of code as they are written into a document, with the empty lines and the prose
  around them (`Rendering`), and the samples that they stand for;
- what a scanner gathers from the lines of one block;
- the samples of a rendered document.

Does not own: how a document falls into sections (`Proofs/Sample/Sections`).

A code line may be empty, may start with spaces or look like prose: the indentation in
front of it is what makes it code.
-/

namespace DocSamples

/-! ## Rendered documents -/

/-- A line of code, and how many empty lines are written after it. -/
structure PaddedLine where
  code : Text
  emptyAfter : Nat
  oneLine : '\n' ∉ code

def PaddedLine.lines (line : PaddedLine) : List Text :=
  (indent ++ line.code) :: List.replicate line.emptyAfter []

/-- Lines of code, of which not all are white space. -/
structure PaddedBlock where
  content : List PaddedLine
  notBlank : ∃ line ∈ content, isBlank line.code = false

namespace PaddedBlock

def lines (block : PaddedBlock) : List Text :=
  block.content.flatMap PaddedLine.lines

/-- The lines of code, each with a line feed; the empty lines leave no trace. -/
def code (block : PaddedBlock) : Text :=
  block.content.flatMap fun line => line.code ++ ['\n']

end PaddedBlock

inductive Lead where
  | emptyLines (count : Nat)
  /-- A line of prose and one empty line, and more empty lines after it. -/
  | prose (line : ProseLine) (more : Nat)

namespace Lead

def lines : Lead → List Text
  | .emptyLines count => List.replicate count []
  | .prose line more => line.text :: [] :: List.replicate more []

def hasProse : Lead → Bool
  | .emptyLines _ => false
  | .prose .. => true

end Lead

/-- A block and what is written in front of it. -/
structure PlacedBlock where
  lead : Lead
  block : PaddedBlock

def PlacedBlock.lines (placed : PlacedBlock) : List Text :=
  placed.lead.lines ++ placed.block.lines

/-- A document of blocks, with prose between them; the first may stand without. -/
structure Rendering where
  blocks : List PlacedBlock
  apart : ∀ placed ∈ blocks.tail, placed.lead.hasProse = true

namespace Rendering

def lines (rendering : Rendering) : List Text :=
  rendering.blocks.flatMap PlacedBlock.lines

def text (rendering : Rendering) : Text :=
  joinWith '\n' rendering.lines

/-- The sample of each block: its code, the number of the line on which its first line
is written, and its position. -/
def samples (rendering : Rendering) : List Sample :=
  rendering.blocks.mapIdx fun index placed =>
    { code := placed.block.code
      line := ((rendering.blocks.take index).flatMap PlacedBlock.lines).length +
        placed.lead.lines.length + 1
      index }

end Rendering

/-! ## One block -/

namespace Scanner

/-- What reading the lines of an open block does: its code grows, and its first line is
the line read first if it was not open before. -/
structure Gathers (code : Text) (before after : Scanner) : Prop where
  block_eq : after.block = before.block ++ code
  blockLine_eq :
    after.blockLine = if before.block.isEmpty then before.lineNumber else before.blockLine
  handedOut_eq : after.handedOut = before.handedOut

private theorem Gathers.trans {earlier later : Text} {before middle after : Scanner}
    (first : Gathers earlier before middle) (second : Gathers later middle after)
    (nonempty : earlier ≠ []) : Gathers (earlier ++ later) before after := by
  have open_ : middle.block.isEmpty = false := by
    rw [first.block_eq, List.isEmpty_eq_false_iff]
    exact List.append_ne_nil_of_right_ne_nil _ nonempty
  constructor
  · rw [second.block_eq, first.block_eq, List.append_assoc]
  · rw [second.blockLine_eq, open_]
    exact first.blockLine_eq
  · rw [second.handedOut_eq, first.handedOut_eq]

/-- Empty lines change the line number and nothing that is gathered. -/
theorem readLines_emptyLines (scanner : Scanner) (count : Nat) :
    scanner.readLines (List.replicate count []) =
      ([], { scanner with
        lineNumber := scanner.lineNumber + count
        afterEmpty := scanner.afterEmpty || count != 0 }) := by
  induction count generalizing scanner with
  | zero =>
      show ([], scanner) = _
      rw [Nat.add_zero, bne_self_eq_false, Bool.or_false]
  | succ count inductionHypothesis =>
      rw [List.replicate_succ, readLines, inductionHypothesis]
      simp [readLine, Nat.add_assoc, Nat.add_comm 1 count]

/-- An indented line is code wherever a block is open or may open. -/
theorem readLine_of_indented (scanner : Scanner) (code : Text)
    (takes : scanner.takesCode = true) :
    scanner.readLine (indent ++ code) =
      (none, { scanner.addCode (indent ++ code) with lineNumber := scanner.lineNumber + 1 }) := by
  have indented : isIndented (indent ++ code) = true :=
    List.isPrefixOf_iff_prefix.2 (List.prefix_append indent code)
  unfold readLine
  rw [indented, takes]
  rfl

theorem codeOfLine_indent (code : Text) : codeOfLine (indent ++ code) = code ++ ['\n'] := rfl

private theorem readLines_paddedLine (scanner : Scanner) (line : PaddedLine)
    (takes : scanner.takesCode = true) :
    (scanner.readLines line.lines).1 = [] ∧
      Gathers (line.code ++ ['\n']) scanner (scanner.readLines line.lines).2 := by
  rw [PaddedLine.lines, readLines, readLine_of_indented scanner line.code takes,
    readLines_emptyLines]
  refine ⟨rfl, ?_, rfl, rfl⟩
  show scanner.block ++ codeOfLine (indent ++ line.code) = _
  rw [codeOfLine_indent]

/-- Where code is taken, pieces of a document that are each gathered are gathered together. -/
theorem readLines_gathered {Piece : Type} {linesOf : Piece → List Text} {codeOf : Piece → Text}
    {pieces : List Piece} (nonempty : pieces ≠ []) (nonemptyCode : ∀ piece, codeOf piece ≠ [])
    (each : ∀ piece ∈ pieces, ∀ scanner : Scanner, scanner.takesCode = true →
      (scanner.readLines (linesOf piece)).1 = [] ∧
        Gathers (codeOf piece) scanner (scanner.readLines (linesOf piece)).2)
    (scanner : Scanner) (takes : scanner.takesCode = true) :
    (scanner.readLines (pieces.flatMap linesOf)).1 = [] ∧
      Gathers (pieces.flatMap codeOf) scanner
        (scanner.readLines (pieces.flatMap linesOf)).2 := by
  induction pieces generalizing scanner with
  | nil => exact absurd rfl nonempty
  | cons piece pieces inductionHypothesis =>
      obtain ⟨nothing, gathers⟩ := each piece List.mem_cons_self scanner takes
      rw [List.flatMap_cons, List.flatMap_cons, readLines_append]
      cases pieces with
      | nil =>
          simp only [List.flatMap_nil, List.append_nil, readLines]
          exact ⟨nothing, gathers⟩
      | cons next pieces =>
          -- The first piece has opened the block, so the next needs no empty line before it.
          have takesOn : (scanner.readLines (linesOf piece)).2.takesCode = true := by
            have open_ : (scanner.readLines (linesOf piece)).2.block.isEmpty = false := by
              rw [gathers.block_eq, List.isEmpty_eq_false_iff]
              exact List.append_ne_nil_of_right_ne_nil _ (nonemptyCode piece)
            rw [takesCode, open_]
            rfl
          obtain ⟨nothingLater, gathersLater⟩ := inductionHypothesis (List.cons_ne_nil _ _)
            (fun other member => each other (List.mem_cons_of_mem _ member)) _ takesOn
          refine ⟨?_, gathers.trans gathersLater (nonemptyCode piece)⟩
          rw [nothing, nothingLater]
          rfl

/-- The lines of a block close nothing and are all gathered, wherever code is taken. -/
theorem readLines_paddedLines (scanner : Scanner) {content : List PaddedLine}
    (nonempty : content ≠ []) (takes : scanner.takesCode = true) :
    (scanner.readLines (content.flatMap PaddedLine.lines)).1 = [] ∧
      Gathers (content.flatMap fun line => line.code ++ ['\n']) scanner
        (scanner.readLines (content.flatMap PaddedLine.lines)).2 :=
  readLines_gathered nonempty (fun _ => List.append_ne_nil_of_right_ne_nil _ (by simp))
    (fun line _ scanner takes => scanner.readLines_paddedLine line takes) scanner takes

end Scanner

private theorem PaddedBlock.content_ne_nil (block : PaddedBlock) : block.content ≠ [] := by
  obtain ⟨line, member, _⟩ := block.notBlank
  exact List.ne_nil_of_mem member

private theorem PaddedBlock.code_notBlank (block : PaddedBlock) : isBlank block.code = false := by
  obtain ⟨line, member, notBlank⟩ := block.notBlank
  rw [isBlank, List.all_eq_false] at notBlank ⊢
  obtain ⟨character, inLine, solid⟩ := notBlank
  refine ⟨character, ?_, solid⟩
  exact List.mem_flatMap.2 ⟨line, member, List.mem_append_left _ inLine⟩

namespace Scanner

/-- Where no block is open and one may open, the lines of a block are one sample. -/
theorem samplesFrom_block (scanner : Scanner) (block : PaddedBlock)
    (nothingOpen : scanner.block = []) (mayOpen : scanner.afterEmpty = true) :
    scanner.samplesFrom block.lines =
      [⟨block.code, scanner.lineNumber, scanner.handedOut⟩] := by
  have takes : scanner.takesCode = true := by
    rw [takesCode, mayOpen, Bool.or_true]
  obtain ⟨nothing, gathers⟩ := scanner.readLines_paddedLines block.content_ne_nil takes
  rw [samplesFrom_eq_readLines, PaddedBlock.lines, nothing]
  generalize (scanner.readLines (block.content.flatMap PaddedLine.lines)).2 = last at gathers ⊢
  have blockEq : last.block = block.code := by
    rw [gathers.block_eq, nothingOpen]
    rfl
  have lineEq : last.blockLine = scanner.lineNumber := by
    rw [gathers.blockLine_eq, nothingOpen]
    rfl
  unfold close
  rw [blockEq, block.code_notBlank, lineEq, gathers.handedOut_eq]
  rfl

/-- Behind nothing but empty lines, a block is the first sample. -/
theorem samplesFrom_emptyLines_block (count : Nat) (block : PaddedBlock) :
    start.samplesFrom (List.replicate count [] ++ block.lines) =
      [⟨block.code, count + 1, 0⟩] := by
  rw [samplesFrom_append, readLines_emptyLines, List.nil_append, samplesFrom_block _ _ rfl rfl]
  show [Sample.mk block.code (1 + count) 0] = _
  rw [Nat.add_comm]

/-! ## Sections of one block each -/

/-- Prose and an empty line in front move the samples down by two lines. -/
theorem samplesFrom_prose (prose : ProseLine) (back : List Text) :
    start.samplesFrom (prose.text :: [] :: back) =
      (start.samplesFrom back).map (Sample.shift 2 0) :=
  samplesFrom_section [] prose back

private theorem samplesFrom_placedBlock (placed : PlacedBlock) :
    start.samplesFrom placed.lines =
      [⟨placed.block.code, placed.lead.lines.length + 1, 0⟩] := by
  unfold PlacedBlock.lines
  cases placed.lead with
  | emptyLines count =>
      rw [Lead.lines, samplesFrom_emptyLines_block, List.length_replicate]
  | prose line more =>
      rw [Lead.lines, List.cons_append, List.cons_append, samplesFrom_prose,
        samplesFrom_emptyLines_block, List.length_cons, List.length_cons,
        List.length_replicate]
      rfl

/-- What stands behind prose and an empty line is counted on from what stands in front. -/
theorem samplesFrom_append_prose (front : List Text) (prose : ProseLine) (back : List Text) :
    start.samplesFrom (front ++ prose.text :: [] :: back) =
      start.samplesFrom front ++ (start.samplesFrom (prose.text :: [] :: back)).map
        (Sample.shift front.length (start.samplesFrom front).length) := by
  have together : Sample.shift front.length (start.samplesFrom front).length ∘
      Sample.shift 2 0 = Sample.shift (front.length + 2) (start.samplesFrom front).length := by
    funext sample
    simp [Sample.shift, Nat.add_assoc, Nat.add_comm 2]
  rw [samplesFrom_section, samplesFrom_prose, List.map_map, together]

private theorem samplesFrom_placedBlocks (blocks : List PlacedBlock)
    (apart : ∀ placed ∈ blocks.tail, placed.lead.hasProse = true) :
    start.samplesFrom (blocks.flatMap PlacedBlock.lines) =
      blocks.mapIdx fun index placed =>
        { code := placed.block.code
          line := ((blocks.take index).flatMap PlacedBlock.lines).length +
            placed.lead.lines.length + 1
          index } := by
  induction blocks with
  | nil => rfl
  | cons placed blocks inductionHypothesis =>
      rw [List.tail_cons] at apart
      have later := inductionHypothesis fun other member =>
        apart other (List.mem_of_mem_tail member)
      -- The other blocks start with prose, so they are a section of their own.
      have parted : start.samplesFrom (placed.lines ++ blocks.flatMap PlacedBlock.lines) =
          start.samplesFrom placed.lines ++
            (start.samplesFrom (blocks.flatMap PlacedBlock.lines)).map
              (Sample.shift placed.lines.length 1) := by
        cases blocks with
        | nil => simp [start, samplesFrom, close, isBlank]
        | cons next blocks =>
            have hasProse := apart next List.mem_cons_self
            cases shape : next.lead with
            | emptyLines count =>
                rw [shape] at hasProse
                exact absurd hasProse Bool.false_ne_true
            | prose line more =>
                have section_ := samplesFrom_append_prose placed.lines line
                  (List.replicate more [] ++ next.block.lines ++
                    blocks.flatMap PlacedBlock.lines)
                have spelled : (next :: blocks).flatMap PlacedBlock.lines =
                    line.text :: [] :: (List.replicate more [] ++ next.block.lines ++
                      blocks.flatMap PlacedBlock.lines) := by
                  rw [List.flatMap_cons, PlacedBlock.lines, shape]
                  rfl
                have one : (start.samplesFrom placed.lines).length = 1 := by
                  rw [samplesFrom_placedBlock]
                  rfl
                rw [spelled, section_, one]
      have moved : ∀ (sampleAt : Nat → PlacedBlock → Sample) (move : Sample → Sample),
          (blocks.mapIdx sampleAt).map move =
            blocks.mapIdx fun index other => move (sampleAt index other) := by
        intro sampleAt move
        apply List.ext_getElem?
        intro index
        simp [Function.comp_def]
      rw [List.flatMap_cons, parted, later, samplesFrom_placedBlock, List.mapIdx_cons, moved]
      refine congrArg₂ List.cons ?_ (congrArg (List.mapIdx · blocks) ?_)
      · simp
      · funext index other
        simp only [Sample.shift, List.take_succ_cons, List.flatMap_cons, List.length_append,
          Sample.mk.injEq, true_and, and_true]
        omega

end Scanner

/-! ## The document -/

namespace Rendering

/-- No line of a rendered document holds a line feed. -/
theorem oneLine_of_mem_lines (rendering : Rendering) :
    ∀ line ∈ rendering.lines, '\n' ∉ line := by
  intro line member
  obtain ⟨placed, _, inPlaced⟩ := List.mem_flatMap.1 member
  rcases List.mem_append.1 inPlaced with inLead | inBlock
  · cases shape : placed.lead with
    | emptyLines count =>
        rw [shape, Lead.lines] at inLead
        rw [List.eq_of_mem_replicate inLead]
        exact List.not_mem_nil
    | prose prose more =>
        rw [shape, Lead.lines] at inLead
        rcases List.mem_cons.1 inLead with rfl | inEmpty
        · exact prose.oneLine
        · rw [← List.replicate_succ] at inEmpty
          rw [List.eq_of_mem_replicate inEmpty]
          exact List.not_mem_nil
  · obtain ⟨padded, _, inPadded⟩ := List.mem_flatMap.1 inBlock
    rcases List.mem_cons.1 inPadded with rfl | inEmpty
    · rw [List.mem_append, not_or]
      exact ⟨by decide, padded.oneLine⟩
    · rw [List.eq_of_mem_replicate inEmpty]
      exact List.not_mem_nil

private theorem extract_text_eq_samplesFrom (rendering : Rendering) :
    extract rendering.text = Scanner.start.samplesFrom rendering.lines :=
  extract_joinWith rendering.oneLine_of_mem_lines

end Rendering

/-- **Extraction undoes rendering.**  Whatever the lines of code are, as long as each block
holds one that is not white space, and whatever prose and however many empty lines are
written around them, a rendered document gives one sample for each block, in order: the
code of the block, the line on which its first line is written, and its position. -/
theorem extract_rendering (rendering : Rendering) :
    extract rendering.text = rendering.samples := by
  rw [rendering.extract_text_eq_samplesFrom]
  exact Scanner.samplesFrom_placedBlocks rendering.blocks rendering.apart

/-- A block with empty lines between its lines of code, and behind prose a block that starts with
an empty line of code. -/
def Rendering.twoBlocks : Rendering where
  blocks :=
    [{ lead := .emptyLines 1
       block :=
        { content :=
            [⟨"while go:".toList, 2, by decide⟩, ⟨"  step() ".toList, 1, by decide⟩]
          notBlank := ⟨_, List.mem_cons_self, by decide⟩ } },
     { lead := .prose ⟨"  and then".toList, by decide, by decide, by decide⟩ 1
       block :=
        { content := [⟨[], 0, by decide⟩, ⟨"The end.".toList, 1, by decide⟩]
          notBlank := ⟨_, List.mem_cons_of_mem _ List.mem_cons_self, by decide⟩ } }]
  apart _ member := by
    obtain rfl := List.mem_singleton.1 member
    rfl

theorem extract_rendering_twoBlocks :
    extract "\n    while go:\n\n\n      step() \n\n  and then\n\n\n    \n    The end.\n".toList =
      [⟨"while go:\n  step() \n".toList, 2, 0⟩, ⟨"\nThe end.\n".toList, 10, 1⟩] := by
  have written : Rendering.twoBlocks.text =
      "\n    while go:\n\n\n      step() \n\n  and then\n\n\n    \n    The end.\n".toList := by
    decide
  rw [← written, extract_rendering]
  decide

end DocSamples
