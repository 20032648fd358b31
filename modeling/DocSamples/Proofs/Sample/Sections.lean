import DocSamples.Proofs.Sample.Renumbering

/-!
Contract: the samples of a document made of sections.

Owns:
- lines of prose, and samples moved further down a document;
- reading lines without reaching the end, and what a run over joined lines finds;
- scanners that differ in nothing but how far they have come (`Scanner.Trails`);
- the samples of a document that prose and an empty line part in two.

Prose closes whatever is open and the empty line after it lets a block open again, so
the scanner stands there as it does before the first line.  The old `blockLine` is still
in its state, but no sample shows it before a block opens and sets it anew.
-/

namespace DocSamples

/-- A line that is prose wherever it stands: it is neither empty nor indented. -/
structure ProseLine where
  text : Text
  nonempty : text ≠ []
  oneLine : '\n' ∉ text
  notIndented : isIndented text = false

/-- A sample as it is numbered further down a document, behind the given numbers of
lines and of samples. -/
def Sample.shift (lines samples : Nat) (sample : Sample) : Sample :=
  { sample with line := sample.line + lines, index := sample.index + samples }

namespace Scanner

/-! ## Runs -/

def start : Scanner :=
  { remaining := [] }

/-- Read lines one after another: the samples that they close, and the state after them. -/
def readLines (scanner : Scanner) : List Text → List Sample × Scanner
  | [] => ([], scanner)
  | line :: lines =>
    let read := scanner.readLine line
    let later := read.2.readLines lines
    (read.1.toList ++ later.1, later.2)

theorem readLines_append (scanner : Scanner) (front back : List Text) :
    scanner.readLines (front ++ back) =
      ((scanner.readLines front).1 ++ ((scanner.readLines front).2.readLines back).1,
        ((scanner.readLines front).2.readLines back).2) := by
  induction front generalizing scanner with
  | nil => rfl
  | cons line front inductionHypothesis =>
      simp only [List.cons_append, readLines, inductionHypothesis, List.append_assoc]

theorem samplesFrom_append (scanner : Scanner) (front back : List Text) :
    scanner.samplesFrom (front ++ back) =
      (scanner.readLines front).1 ++ (scanner.readLines front).2.samplesFrom back := by
  induction front generalizing scanner with
  | nil => rfl
  | cons line front inductionHypothesis =>
      rw [List.cons_append, samplesFrom, inductionHypothesis, readLines, List.append_assoc]

/-- What a run finds that ends here: the samples closed so far, and the open block. -/
theorem samplesFrom_eq_readLines (scanner : Scanner) (lines : List Text) :
    scanner.samplesFrom lines =
      (scanner.readLines lines).1 ++ (scanner.readLines lines).2.close.1.toList := by
  have whole := scanner.samplesFrom_append lines []
  rw [List.append_nil] at whole
  exact whole

/-- After the lines before a position, a scanner knows what is open there. -/
theorem tracks_readLines {lines : List Text} {position : Nat}
    (inside : position ≤ lines.length) :
    (start.readLines (lines.take position)).2.Tracks lines position := by
  induction position with
  | zero => constructor <;> simp [readLines, start, openBlock, blockCode, followsEmpty]
  | succ position inductionHypothesis =>
      obtain ⟨line, found⟩ : ∃ line, lines[position]? = some line :=
        ⟨lines[position], List.getElem?_eq_getElem inside⟩
      have tracks := inductionHypothesis (Nat.le_of_lt inside)
      rw [List.take_add_one, found, Option.toList_some, readLines_append]
      exact tracks.readLine found

private theorem close_handedOut (scanner : Scanner) :
    scanner.close.2.handedOut = scanner.handedOut + scanner.close.1.toList.length := by
  unfold close
  split
  · rfl
  · rfl

/-- Reading a line moves the line number on by one and counts the sample it closes. -/
theorem readLine_counts (scanner : Scanner) (line : Text) :
    (scanner.readLine line).2.lineNumber = scanner.lineNumber + 1 ∧
      (scanner.readLine line).2.handedOut =
        scanner.handedOut + (scanner.readLine line).1.toList.length := by
  unfold readLine
  split
  · exact ⟨rfl, rfl⟩
  split
  · exact ⟨rfl, rfl⟩
  · have counted := close_handedOut { scanner with afterEmpty := false }
    have numbered := close_lineNumber { scanner with afterEmpty := false }
    exact ⟨congrArg (· + 1) numbered, counted⟩

private theorem readLines_counts (scanner : Scanner) (lines : List Text) :
    (scanner.readLines lines).2.lineNumber = scanner.lineNumber + lines.length ∧
      (scanner.readLines lines).2.handedOut =
        scanner.handedOut + (scanner.readLines lines).1.length := by
  induction lines generalizing scanner with
  | nil => exact ⟨rfl, rfl⟩
  | cons line lines inductionHypothesis =>
      obtain ⟨lineHere, samplesHere⟩ := scanner.readLine_counts line
      obtain ⟨lineLater, samplesLater⟩ := inductionHypothesis (scanner.readLine line).2
      simp only [readLines, List.length_cons, List.length_append]
      constructor
      · omega
      · omega

/-! ## Scanners that trail others -/

/-- One scanner is in the state of another, a number of lines and of samples further
down.  Where no block is open, the line of the last one does not matter. -/
structure Trails (lines samples : Nat) (earlier later : Scanner) : Prop where
  lineNumber_eq : later.lineNumber = earlier.lineNumber + lines
  block_eq : later.block = earlier.block
  blockLine_eq : earlier.block ≠ [] → later.blockLine = earlier.blockLine + lines
  afterEmpty_eq : later.afterEmpty = earlier.afterEmpty
  handedOut_eq : later.handedOut = earlier.handedOut + samples

private theorem Trails.mirrors {lines samples : Nat} {earlier later : Scanner}
    (trails : Trails lines samples earlier later) :
    Mirrors (· + lines) (· + samples) earlier later := by
  have numbered := trails.lineNumber_eq
  have counted := trails.handedOut_eq
  refine ⟨trails.block_eq, trails.blockLine_eq, fun more => ?_, fun more => ?_⟩
  · show later.lineNumber + more = earlier.lineNumber + more + lines
    omega
  · show later.handedOut + more = earlier.handedOut + more + samples
    omega

theorem Trails.samplesFrom_eq {lines samples : Nat} {earlier later : Scanner}
    (trails : Trails lines samples earlier later) (remaining : List Text) :
    later.samplesFrom remaining =
      (earlier.samplesFrom remaining).map (Sample.shift lines samples) := by
  have takes := trails.mirrors.takesCode_eq trails.afterEmpty_eq
  exact trails.mirrors.samplesFrom_eq remaining fun _ _ _ => takes

private theorem trails_ofText (text : Text) : Trails 0 0 start (ofText text) :=
  ⟨rfl, rfl, fun open_ => absurd rfl open_, rfl, rfl⟩

/-! ## Sections -/

theorem readLine_of_proseLine (scanner : Scanner) (prose : ProseLine) :
    scanner.readLine prose.text =
      let closed := { scanner with afterEmpty := false }.close
      (closed.1, { closed.2 with lineNumber := closed.2.lineNumber + 1 }) := by
  apply readLine_of_refused prose.nonempty
  rw [prose.notIndented, Bool.false_and]

/-- Prose closes the open block as the end of the document does. -/
theorem readLine_of_proseLine_fst (scanner : Scanner) (prose : ProseLine) :
    (scanner.readLine prose.text).1 = scanner.close.1 := by
  rw [readLine_of_proseLine]
  exact scanner.close_of_marks false scanner.lineNumber

/-- After prose and an empty line, a scanner trails one that has read nothing. -/
theorem trails_of_proseLine_empty (scanner : Scanner) (prose : ProseLine) :
    Trails (scanner.lineNumber + 1) (scanner.readLine prose.text).2.handedOut start
      ((scanner.readLine prose.text).2.readLine []).2 := by
  have numbered := (scanner.readLine_counts prose.text).1
  have closed : (scanner.readLine prose.text).2.block = [] := by
    rw [readLine_of_proseLine]
    exact close_block { scanner with afterEmpty := false }
  refine ⟨?_, closed, fun open_ => absurd rfl open_, rfl, ?_⟩
  · show (scanner.readLine prose.text).2.lineNumber + 1 = 1 + (scanner.lineNumber + 1)
    omega
  · show (scanner.readLine prose.text).2.handedOut = 0 + _
    omega

/-- Prose and an empty line part a document in two: its samples are those of the lines
in front, and those of the lines behind, further down. -/
theorem samplesFrom_section (front : List Text) (prose : ProseLine) (back : List Text) :
    start.samplesFrom (front ++ prose.text :: [] :: back) =
      start.samplesFrom front ++
        (start.samplesFrom back).map
          (Sample.shift (front.length + 2) (start.samplesFrom front).length) := by
  obtain ⟨numbered, counted⟩ := start.readLines_counts front
  have closes := (start.readLines front).2.readLine_of_proseLine_fst prose
  have onward := trails_of_proseLine_empty (start.readLines front).2 prose
  have handedOut := ((start.readLines front).2.readLine_counts prose.text).2
  have lines : (start.readLines front).2.lineNumber + 1 = front.length + 2 := by
    rw [numbered]
    show 1 + front.length + 1 = front.length + 2
    omega
  have samples : ((start.readLines front).2.readLine prose.text).2.handedOut =
      (start.samplesFrom front).length := by
    rw [handedOut, counted, closes, samplesFrom_eq_readLines, List.length_append]
    show 0 + _ + _ = _
    omega
  rw [lines, samples] at onward
  rw [samplesFrom_append, samplesFrom, samplesFrom, closes, onward.samplesFrom_eq,
    samplesFrom_eq_readLines start front, List.append_assoc]
  rfl

end Scanner

theorem extract_eq_samplesFrom (text : Text) :
    extract text = Scanner.start.samplesFrom (lines text) := by
  have same := (Scanner.trails_ofText text).samplesFrom_eq (lines text)
  have unmoved : Sample.shift 0 0 = id := rfl
  rw [unmoved, List.map_id] at same
  exact same

/-- The samples of lines that are joined to a text are those of the lines. -/
theorem extract_joinWith {pieces : List Text} (oneLine : ∀ piece ∈ pieces, '\n' ∉ piece) :
    extract (joinWith '\n' pieces) = Scanner.start.samplesFrom pieces := by
  rw [extract_eq_samplesFrom]
  by_cases nothing : pieces = []
  · subst nothing
    rfl
  · rw [lines, splitAt_joinWith '\n' nothing oneLine]

private theorem lines_section (front : Text) (prose : ProseLine) (back : Text) :
    lines (front ++ ['\n'] ++ prose.text ++ ['\n', '\n'] ++ back) =
      lines front ++ prose.text :: [] :: lines back := by
  have regrouped : front ++ ['\n'] ++ prose.text ++ ['\n', '\n'] ++ back =
      front ++ '\n' :: (prose.text ++ '\n' :: ([] ++ '\n' :: back)) := by
    simp
  unfold lines
  rw [regrouped, splitAt_append_separator, splitAt_append_separator, splitAt_append_separator,
    splitAt_of_notMem _ prose.oneLine]
  rfl

/-- **Extraction is compositional over sections.**  Where a line of prose and an empty line
stand between two texts, the samples of the whole are those of the first text and then those
of the second, with its lines and its samples counted on; their code is the same.  It does
not matter what the first text leaves open. -/
theorem extract_section (front : Text) (prose : ProseLine) (back : Text) :
    extract (front ++ ['\n'] ++ prose.text ++ ['\n', '\n'] ++ back) =
      extract front ++
        (extract back).map (Sample.shift (front.count '\n' + 3) (extract front).length) := by
  have counted : (lines front).length + 2 = front.count '\n' + 3 := by
    rw [lines, length_splitAt]
  rw [extract_eq_samplesFrom, lines_section, Scanner.samplesFrom_section, counted,
    ← extract_eq_samplesFrom, ← extract_eq_samplesFrom]

end DocSamples
