import DocSamples.Proofs.Sample.Rendering

/-!
Contract: the samples of a document into which empty lines are written.

Owns:
- the one place where an empty line matters: above an indented line that stands directly
  under prose;
- texts with empty lines put in front of a line;
- the lines that samples found so far start on;
- the samples of such a text.

Everywhere else a scanner takes the next line as it would have taken it anyway.  An open
block takes code with or without an empty line, and a line that is not indented is not asked.
-/

namespace DocSamples

/-- Whether an indented line stands directly under prose, which makes it prose too. -/
def isIndentedUnderProse (lines : List Text) : (position : Nat) → Bool
  | 0 => false
  | position + 1 => isProseLine lines position && lines[position + 1]?.any isIndented

/-- A text with empty lines in front of the line at a position, or at its end. -/
def insertEmptyLines (text : Text) (position count : Nat) : Text :=
  joinWith '\n' ((lines text).take position ++
    (List.replicate count [] ++ (lines text).drop position))

private theorem lines_insertEmptyLines (text : Text) (position count : Nat) :
    lines (insertEmptyLines text position count) =
      (lines text).take position ++ (List.replicate count [] ++ (lines text).drop position) := by
  apply splitAt_joinWith
  · intro nothing
    obtain ⟨front, back⟩ := List.append_eq_nil_iff.1 nothing
    have whole := List.take_append_drop position (lines text)
    rw [front, (List.append_eq_nil_iff.1 back).2] at whole
    exact splitAt_ne_nil _ _ whole.symm
  · intro piece member
    rcases List.mem_append.1 member with inFront | inBack
    · exact notMem_of_mem_splitAt '\n' (List.mem_of_mem_take inFront)
    rcases List.mem_append.1 inBack with isEmpty | inRest
    · rw [List.eq_of_mem_replicate isEmpty]
      exact List.not_mem_nil
    · exact notMem_of_mem_splitAt '\n' (List.mem_of_mem_drop inRest)

/-- Anywhere else, an indented line is code. -/
theorem isCodeLine_of_indented {lines : List Text} {position : Nat} {line : Text}
    (found : lines[position]? = some line) (indented : isIndented line = true)
    (apart : isIndentedUnderProse lines position = false) :
    isCodeLine lines position = true := by
  cases position with
  | zero => rw [isCodeLine, found, Option.any_some, indented]
  | succ position =>
      rw [isIndentedUnderProse, found, Option.any_some, indented, Bool.and_true] at apart
      rw [isCodeLine, found, Option.any_some, indented, Bool.true_and]
      cases code : isCodeLine lines position with
      | true => rw [Bool.or_true]
      | false =>
          obtain ⟨above, there⟩ : ∃ above, lines[position]? = some above := by
            have inside := (List.getElem?_eq_some_iff.1 found).1
            exact ⟨lines[position], List.getElem?_eq_getElem (by omega)⟩
          rw [there, eq_nil_of_not_code_not_prose there code apart]
          rfl

private theorem isProseLine_of_indentedUnderProse {lines : List Text} {position : Nat}
    (under : isIndentedUnderProse lines position = true) :
    isProseLine lines position = true := by
  cases position with
  | zero => exact Bool.noConfusion under
  | succ position =>
      rw [isIndentedUnderProse, Bool.and_eq_true, Option.any_eq_true] at under
      obtain ⟨prose, line, found, indented⟩ := under
      have nonempty : line.isEmpty = false :=
        List.isEmpty_eq_false_iff.2 (ne_nil_of_isIndented indented)
      rw [isProseLine, Bool.and_eq_true, Option.any_eq_true] at prose
      obtain ⟨⟨above, there, notEmpty⟩, notCode⟩ := prose
      rw [Bool.not_eq_true'] at notEmpty notCode
      rw [isProseLine, isCodeLine, found, there, Option.any_some, Option.any_some,
        Option.any_some, nonempty, notEmpty, notCode, indented]
      rfl

/-- There an empty line makes code of prose. -/
theorem isCodeLine_below_emptyLines {lines : List Text} {position count : Nat}
    (under : isIndentedUnderProse lines position = true) (some_ : 0 < count) :
    isCodeLine (lines.take position ++ (List.replicate count [] ++ lines.drop position))
      (position + count) = true := by
  cases position with
  | zero => exact Bool.noConfusion under
  | succ position =>
      rw [isIndentedUnderProse, Bool.and_eq_true, Option.any_eq_true] at under
      obtain ⟨_, line, found, indented⟩ := under
      have inside : position + 1 < lines.length := (List.getElem?_eq_some_iff.1 found).1
      have width : (lines.take (position + 1)).length = position + 1 :=
        List.length_take_of_le (Nat.le_of_lt inside)
      obtain ⟨fewer, rfl⟩ : ∃ fewer, count = fewer + 1 := ⟨count - 1, by omega⟩
      have above : (lines.take (position + 1) ++ (List.replicate (fewer + 1) [] ++
          lines.drop (position + 1)))[position + 1 + fewer]? = some [] := by
        rw [List.getElem?_append_right (by omega), width, Nat.add_sub_cancel_left,
          List.getElem?_append_left (by simp), List.getElem?_replicate, if_pos (by omega)]
      have here : (lines.take (position + 1) ++ (List.replicate (fewer + 1) [] ++
          lines.drop (position + 1)))[position + 1 + fewer + 1]? = some line := by
        rw [List.getElem?_append_right (by omega), width, Nat.add_assoc (position + 1),
          Nat.add_sub_cancel_left, List.getElem?_append_right (by simp),
          List.length_replicate, Nat.sub_self, List.getElem?_drop]
        exact found
      rw [← Nat.add_assoc, isCodeLine, here, above, Option.any_some, Option.any_some, indented]
      rfl

namespace Scanner

/-! ## The samples found so far -/

private theorem close_of_readLine {scanner : Scanner} {line : Text} {sample : Sample}
    (found : (scanner.readLine line).1 = some sample) : scanner.close.1 = some sample := by
  unfold readLine at found
  split at found
  · exact absurd found (by simp)
  split at found
  · exact absurd found (by simp)
  · exact (scanner.close_of_marks false scanner.lineNumber).symm.trans found

theorem Tracks.blockLine_le {lines : List Text} {position : Nat} {scanner : Scanner}
    (tracks : scanner.Tracks lines position) (open_ : scanner.block ≠ []) :
    scanner.blockLine ≤ position := by
  obtain ⟨first, isOpen, starts⟩ := tracks.exists_first open_
  have before := (mem_openBlock.1 isOpen).1
  omega

/-- Samples found in the lines before a position start on one of these lines. -/
theorem line_le_of_mem_readLines {lines : List Text} {position : Nat}
    (inside : position ≤ lines.length) :
    ∀ sample ∈ (start.readLines (lines.take position)).1, sample.line ≤ position := by
  induction position with
  | zero => simp [readLines]
  | succ position inductionHypothesis =>
      intro sample member
      have earlier : position ≤ lines.length := Nat.le_of_lt inside
      have found : lines[position]? = some lines[position] := List.getElem?_eq_getElem inside
      rw [List.take_add_one, found, Option.toList_some, readLines_append, List.mem_append]
        at member
      rcases member with before | here
      · exact Nat.le_succ_of_le (inductionHypothesis earlier sample before)
      · rw [readLines, readLines, List.append_nil, Option.mem_toList] at here
        have pending := close_of_readLine here
        have starts := (tracks_readLines earlier).blockLine_le (open_of_pending pending)
        rw [(close_eq_some_iff.1 pending).2]
        exact Nat.le_succ_of_le starts

/-! ## The scan -/

/-- Behind empty lines a scanner mirrors itself in front of them: what starts below them
moves down, and the block that is open above them stays. -/
theorem Tracks.mirrors_emptyLines {lines : List Text} {position : Nat} {scanner : Scanner}
    (tracks : scanner.Tracks lines position) (count : Nat) :
    Mirrors (fun line => if position < line then line + count else line) id scanner
      (scanner.readLines (List.replicate count [])).2 := by
  rw [readLines_emptyLines]
  refine ⟨rfl, fun open_ => ?_, fun more => ?_, fun _ => rfl⟩
  · have above := tracks.blockLine_le open_
    show scanner.blockLine =
      if position < scanner.blockLine then scanner.blockLine + count else scanner.blockLine
    rw [if_neg (by omega)]
  · show scanner.lineNumber + count + more =
      if position < scanner.lineNumber + more then scanner.lineNumber + more + count
      else scanner.lineNumber + more
    rw [tracks.lineNumber_eq, if_pos (by omega)]
    omega

private theorem samplesFrom_insertEmptyLines {lines : List Text} {position : Nat}
    (inside : position ≤ lines.length) (count : Nat)
    (apart : isIndentedUnderProse lines position = false) :
    start.samplesFrom (lines.take position ++
        (List.replicate count [] ++ lines.drop position)) =
      (start.samplesFrom lines).map
        (Sample.renumber (fun line => if position < line then line + count else line) id) := by
  have tracks := tracks_readLines inside
  have unmoved := line_le_of_mem_readLines inside
  have whole : start.samplesFrom lines =
      start.samplesFrom (lines.take position ++ lines.drop position) := by
    rw [List.take_append_drop]
  rw [whole, samplesFrom_append, samplesFrom_append, samplesFrom_append, List.map_append]
  generalize start.readLines (lines.take position) = read at tracks unmoved ⊢
  have mirrors := tracks.mirrors_emptyLines count
  -- An indented line below is code here, so it is taken with and without the empty lines.
  have alike : ∀ line ∈ (lines.drop position).head?, isIndented line = true →
      (read.2.readLines (List.replicate count [])).2.takesCode = read.2.takesCode := by
    intro line isNext indented
    rw [List.head?_drop] at isNext
    have code := isCodeLine_of_indented isNext indented apart
    rw [isCodeLine_iff_open isNext, indented, Bool.true_and, ← tracks.takesCode_eq] at code
    have mayTake : (!read.2.block.isEmpty || (read.2.afterEmpty || count != 0)) = true := by
      rw [← Bool.or_assoc]
      exact Bool.or_eq_true_iff.2 (Or.inl code)
    rw [code, readLines_emptyLines]
    exact mayTake
  have stay : read.1.map
      (Sample.renumber (fun line => if position < line then line + count else line) id) =
        read.1 := by
    rw [List.map_congr_left fun sample member => ?_, List.map_id]
    show { sample with line := if position < sample.line then _ else sample.line } = sample
    rw [if_neg (Nat.not_lt.2 (unmoved sample member))]
  rw [mirrors.samplesFrom_eq _ alike, stay, readLines_emptyLines]
  rfl

end Scanner

/-- **Empty lines matter only between prose and indentation.**  Written in front of any line,
or at the end, they leave all samples as they are but for those that start below: these move
down.  The one exception is an indented line directly under prose.  It is prose itself, and
with an empty line above it becomes code. -/
theorem extract_insertEmptyLines (text : Text) {position : Nat}
    (inside : position ≤ (lines text).length) (count : Nat) :
    (isIndentedUnderProse (lines text) position = false →
      extract (insertEmptyLines text position count) =
        (extract text).map
          (Sample.renumber (fun line => if position < line then line + count else line) id)) ∧
    (isIndentedUnderProse (lines text) position = true → 0 < count →
      isProseLine (lines text) position = true ∧
        isCodeLine (lines (insertEmptyLines text position count)) (position + count) = true) := by
  rw [lines_insertEmptyLines]
  refine ⟨fun apart => ?_, fun under some_ => ?_⟩
  · rw [extract_eq_samplesFrom, extract_eq_samplesFrom, lines_insertEmptyLines]
    exact Scanner.samplesFrom_insertEmptyLines inside count apart
  · exact ⟨isProseLine_of_indentedUnderProse under, isCodeLine_below_emptyLines under some_⟩

/-- Two empty lines inside a block, and one between prose and an indented line. -/
theorem insertEmptyLines_inside_and_under :
    let text := "A:\n\n    a()\n    b()\nB:\n\n    c()\n".toList
    let other := "A\n    a()\n".toList
    3 ≤ (lines text).length ∧ isIndentedUnderProse (lines text) 3 = false ∧
      extract (insertEmptyLines text 3 2) =
        (extract text).map
          (Sample.renumber (fun line => if 3 < line then line + 2 else line) id) ∧
    1 ≤ (lines other).length ∧ isIndentedUnderProse (lines other) 1 = true ∧ 0 < 1 ∧
      isProseLine (lines other) 1 = true ∧
        isCodeLine (lines (insertEmptyLines other 1 1)) (1 + 1) = true := by
  intro text other
  have inside : 3 ≤ (lines text).length := by decide
  have apart : isIndentedUnderProse (lines text) 3 = false := by decide
  have otherInside : 1 ≤ (lines other).length := by decide
  have under : isIndentedUnderProse (lines other) 1 = true := by decide
  exact ⟨inside, apart, (extract_insertEmptyLines text inside 2).1 apart, otherInside, under,
    Nat.one_pos, (extract_insertEmptyLines other otherInside 1).2 under Nat.one_pos⟩

end DocSamples
