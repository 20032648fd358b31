import DocSamples.Check.Documents
import DocSamples.Proofs.Sample.Rendering
import Mathlib.Data.List.TakeWhile

/-!
Contract: the samples of a document whose lines end in a carriage return and a line feed.

Owns:
- such texts, and that none of their lines is empty but the last;
- scanners that are shut: no block is open, and none may open before an empty line;
- the samples of lines that are all indented, and of these with others behind them;
- the samples and the check of such a document.

An empty line that ends in a carriage return is not empty, so it is prose.  The first line
that is not indented therefore shuts the scanner, and nothing opens it again.
-/

namespace DocSamples

/-- Whether a carriage return stands directly before every line feed. -/
def EndsLinesInReturn (text : Text) : Prop :=
  ∀ position < text.length, text[position]? = some '\n' →
    0 < position ∧ text[position - 1]? = some '\r'

instance (text : Text) : Decidable (EndsLinesInReturn text) := by
  unfold EndsLinesInReturn
  infer_instance

/-- The indented lines with which a text starts. -/
def leadingLines (text : Text) : List Text :=
  (lines text).takeWhile isIndented

def leadingCode (text : Text) : Text :=
  (leadingLines text).flatMap codeOfLine

def OnlyLastEmpty (lines : List Text) : Prop :=
  ∀ line ∈ lines.dropLast, line ≠ []

namespace OnlyLastEmpty

theorem eq_nil {remaining : List Text} (only : OnlyLastEmpty ([] :: remaining)) :
    remaining = [] := by
  cases remaining with
  | nil => rfl
  | cons next remaining => exact absurd rfl (only [] List.mem_cons_self)

theorem behind {front back : List Text} (only : OnlyLastEmpty (front ++ back)) :
    OnlyLastEmpty back := by
  intro line member
  apply only line
  have nonempty : back ≠ [] := by
    rintro rfl
    exact List.not_mem_nil member
  rw [List.dropLast_append_of_ne_nil nonempty]
  exact List.mem_append_right _ member

end OnlyLastEmpty

namespace EndsLinesInReturn

private theorem ne_nil {front back : Text} (returns : EndsLinesInReturn (front ++ '\n' :: back)) :
    front ≠ [] := by
  rintro rfl
  exact absurd (returns 0 (by simp) rfl).1 (Nat.lt_irrefl 0)

private theorem behind {front back : Text} (returns : EndsLinesInReturn (front ++ '\n' :: back)) :
    EndsLinesInReturn back := by
  have moved : ∀ position,
      (front ++ '\n' :: back)[front.length + 1 + position]? = back[position]? := by
    intro position
    rw [List.getElem?_append_right (by omega), Nat.add_assoc, Nat.add_sub_cancel_left,
      Nat.add_comm 1, List.getElem?_cons_succ]
  intro position inside feeds
  have before := returns (front.length + 1 + position)
    (by simp only [List.length_append, List.length_cons]; omega) ((moved position).trans feeds)
  cases position with
  | zero =>
      -- What stands before the first character behind a line feed is that line feed.
      rw [Nat.add_zero, Nat.add_sub_cancel, List.getElem?_append_right (le_refl _),
        Nat.sub_self] at before
      have feedIsReturn : '\n' = '\r' := Option.some.inj before.2
      exact absurd feedIsReturn (by decide)
  | succ position => exact ⟨Nat.succ_pos _, (moved position).symm.trans before.2⟩

private theorem onlyLastEmpty_pieces {pieces : List Text}
    (returns : EndsLinesInReturn (joinWith '\n' pieces)) : OnlyLastEmpty pieces := by
  induction pieces with
  | nil => simp [OnlyLastEmpty]
  | cons piece pieces inductionHypothesis =>
      cases pieces with
      | nil => simp [OnlyLastEmpty]
      | cons next pieces =>
          intro line member
          rw [joinWith] at returns
          rw [List.dropLast_cons_cons, List.mem_cons] at member
          rcases member with rfl | later
          · exact returns.ne_nil
          · exact inductionHypothesis returns.behind line later

private theorem onlyLastEmpty_lines {text : Text} (returns : EndsLinesInReturn text) :
    OnlyLastEmpty (lines text) := by
  apply onlyLastEmpty_pieces
  rw [lines, joinWith_splitAt]
  exact returns

end EndsLinesInReturn

namespace Scanner

/-! ## Scanners that are shut -/

/-- Whether no block is open and none may open before an empty line is read. -/
structure Shut (scanner : Scanner) : Prop where
  nothingOpen : scanner.block = []
  mayNotOpen : scanner.afterEmpty = false

theorem shut_of_refused {scanner : Scanner} {line : Text} (nonempty : line ≠ [])
    (refused : (isIndented line && scanner.takesCode) = false) :
    (scanner.readLine line).2.Shut := by
  rw [readLine_of_refused nonempty refused]
  exact ⟨close_block _, close_afterEmpty _⟩

theorem Shut.close_eq_none {scanner : Scanner} (shut : scanner.Shut) : scanner.close.1 = none := by
  unfold close
  rw [shut.nothingOpen]
  rfl

private theorem Shut.readLine {scanner : Scanner} (shut : scanner.Shut) {line : Text}
    (nonempty : line ≠ []) :
    (scanner.readLine line).1 = none ∧ (scanner.readLine line).2.Shut := by
  have refused : (isIndented line && scanner.takesCode) = false := by
    rw [takesCode, shut.nothingOpen, shut.mayNotOpen]
    exact Bool.and_false _
  refine ⟨?_, shut_of_refused nonempty refused⟩
  rw [readLine_of_refused nonempty refused]
  exact (scanner.close_of_marks false scanner.lineNumber).trans shut.close_eq_none

/-- A single empty line is read as the end of the document is. -/
theorem samplesFrom_emptyLine (scanner : Scanner) :
    scanner.samplesFrom [[]] = scanner.samplesFrom [] :=
  congrArg Option.toList (scanner.close_of_marks true _)

/-- A scanner that is shut finds nothing in lines that are not empty.  The last may be empty,
for nothing comes behind it. -/
theorem Shut.samplesFrom_eq {scanner : Scanner} (shut : scanner.Shut) {remaining : List Text}
    (only : OnlyLastEmpty remaining) : scanner.samplesFrom remaining = [] := by
  induction remaining generalizing scanner with
  | nil => exact congrArg Option.toList shut.close_eq_none
  | cons line remaining inductionHypothesis =>
      by_cases empty : line = []
      · subst empty
        obtain rfl := only.eq_nil
        exact scanner.samplesFrom_emptyLine.trans (congrArg Option.toList shut.close_eq_none)
      · obtain ⟨silent, stillShut⟩ := shut.readLine empty
        have later : OnlyLastEmpty ([line] ++ remaining) := only
        rw [samplesFrom, silent, inductionHypothesis stillShut later.behind]
        rfl

/-! ## Indented lines and what stands behind them -/

/-- A first line that is not indented closes the open block, and nothing is found behind it. -/
theorem samplesFrom_of_not_indented (scanner : Scanner) {remaining : List Text}
    (first : ∀ line ∈ remaining.head?, isIndented line = false)
    (only : OnlyLastEmpty remaining) :
    scanner.samplesFrom remaining = scanner.samplesFrom [] := by
  cases remaining with
  | nil => rfl
  | cons line remaining =>
      by_cases empty : line = []
      · subst empty
        obtain rfl := only.eq_nil
        exact scanner.samplesFrom_emptyLine
      · have refused : (isIndented line && scanner.takesCode) = false := by
          rw [first line rfl, Bool.false_and]
        have later : OnlyLastEmpty ([line] ++ remaining) := only
        have found := (shut_of_refused empty refused).samplesFrom_eq later.behind
        show (scanner.readLine line).1.toList ++ (scanner.readLine line).2.samplesFrom remaining = _
        rw [found, List.append_nil, readLine_of_refused empty refused]
        exact congrArg Option.toList (scanner.close_of_marks false scanner.lineNumber)

private theorem readLines_indented {line : Text} (indented : isIndented line = true)
    (scanner : Scanner) (takes : scanner.takesCode = true) :
    (scanner.readLines [line]).1 = [] ∧
      Gathers (codeOfLine line) scanner (scanner.readLines [line]).2 := by
  obtain ⟨code, rfl⟩ := List.isPrefixOf_iff_prefix.1 indented
  simp only [readLines, readLine_of_indented scanner code takes]
  exact ⟨rfl, rfl, rfl, rfl⟩

/-- Lines that are all indented are one block from the first line on. -/
theorem samplesFrom_indented {run : List Text} (indented : ∀ line ∈ run, isIndented line = true) :
    start.samplesFrom run =
      if isBlank (run.flatMap codeOfLine) then [] else [⟨run.flatMap codeOfLine, 1, 0⟩] := by
  by_cases nothing : run = []
  · subst nothing
    rfl
  · obtain ⟨silent, gathers⟩ := readLines_gathered nothing
      (fun line => List.append_ne_nil_of_right_ne_nil _ (List.cons_ne_nil _ _))
      (fun line member => readLines_indented (indented line member)) start rfl
    rw [List.flatMap_singleton'] at silent gathers
    rw [samplesFrom_eq_readLines, silent]
    generalize (start.readLines run).2 = last at gathers ⊢
    unfold close
    rw [gathers.block_eq, gathers.blockLine_eq, gathers.handedOut_eq]
    show (if isBlank (run.flatMap codeOfLine) then _ else _ : Option Sample × Scanner).1.toList = _
    split <;> rfl

end Scanner

/-! ## The document -/

private theorem isIndented_of_mem_leadingLines {text line : Text}
    (member : line ∈ leadingLines text) :
    isIndented line = true :=
  List.mem_takeWhile_imp member

private theorem EndsLinesInReturn.extract_eq {text : Text} (returns : EndsLinesInReturn text) :
    extract text = Scanner.start.samplesFrom (leadingLines text) := by
  have parted : leadingLines text ++ (lines text).dropWhile isIndented = lines text :=
    List.takeWhile_append_dropWhile
  have only := returns.onlyLastEmpty_lines
  rw [← parted] at only
  have first : ∀ line ∈ ((lines text).dropWhile isIndented).head?, isIndented line = false := by
    intro line atHead
    have refused := List.head?_dropWhile_not isIndented (lines text)
    rw [Option.mem_def] at atHead
    rw [atHead] at refused
    simpa using refused
  rw [extract_eq_samplesFrom, ← parted, Scanner.samplesFrom_append,
    Scanner.samplesFrom_of_not_indented _ first only.behind, ← Scanner.samplesFrom_append,
    List.append_nil]

/-- The lines with which a text starts, as a text of their own, have the same samples as these
lines. -/
theorem extract_leadingLines (text : Text) :
    extract (joinWith '\n' (leadingLines text)) =
      Scanner.start.samplesFrom (leadingLines text) := by
  apply extract_joinWith
  intro piece member
  exact notMem_of_mem_splitAt '\n' ((List.takeWhile_prefix isIndented).subset member)

/-- **With carriage returns, only code at the very start is found.**  Where every line ends in
a carriage return and a line feed, the indented lines at the start are the only code.  They
are one sample, which starts on the first line, unless they are white space.  What stands
behind them is not checked. -/
theorem extract_of_endsLinesInReturn {text : Text} (returns : EndsLinesInReturn text) :
    extract text =
        (if isBlank (leadingCode text) then [] else [⟨leadingCode text, 1, 0⟩]) ∧
      ∀ {World : Type} (console : Console World) (runner : Runner World) (name : Text)
          (summary : Summary) (world : World),
        console.checkDocument runner ⟨name, text⟩ summary world =
          console.checkDocument runner ⟨name, joinWith '\n' (leadingLines text)⟩ summary
            world := by
  constructor
  · rw [returns.extract_eq]
    exact Scanner.samplesFrom_indented fun _ => isIndented_of_mem_leadingLines
  · intro World console runner name summary world
    unfold Console.checkDocument
    rw [returns.extract_eq, extract_leadingLines]

/-- Of two samples only the first is found: what parts them is a carriage return on a line of
its own, and no empty line. -/
theorem extract_of_endsLinesInReturn_two :
    let text := "    a()\r\n    b()\r\nText\r\n\r\n    c()\r\n".toList
    EndsLinesInReturn text ∧ extract text = [⟨"a()\r\nb()\r\n".toList, 1, 0⟩] ∧
      ∀ {World : Type} (console : Console World) (runner : Runner World) (summary : Summary)
          (world : World),
        console.checkDocument runner ⟨"a.md".toList, text⟩ summary world =
          console.checkDocument runner ⟨"a.md".toList, "    a()\r\n    b()\r".toList⟩ summary
            world := by
  intro text
  have returns : EndsLinesInReturn text := by decide +kernel
  obtain ⟨found, checked⟩ := extract_of_endsLinesInReturn returns
  refine ⟨returns, found, ?_⟩
  intro World console runner summary world
  exact checked console runner "a.md".toList summary world

end DocSamples
