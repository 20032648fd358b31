import DocSamples.Proofs.Sample.Extraction

/-!
Contract: scanners that differ in nothing but the numbers they count.

Owns:
- samples with other numbers;
- scanners whose numbers are those of others renumbered (`Scanner.Mirrors`);
- the samples that two such scanners find in the same lines.

A renumbering need not move everything by the same distance: an open block may keep the
number of its first line while the lines below it move.
-/

namespace DocSamples

def Sample.renumber (line index : Nat → Nat) (sample : Sample) : Sample :=
  { sample with line := line sample.line, index := index sample.index }

namespace Scanner

/-- The image of a scanner has the same block, and its numbers are renumbered: that of the
block while one is open, and all that are still to be given. -/
structure Mirrors (line index : Nat → Nat) (scanner image : Scanner) : Prop where
  block_eq : image.block = scanner.block
  blockLine_eq : scanner.block ≠ [] → image.blockLine = line scanner.blockLine
  lineNumber_eq : ∀ more, image.lineNumber + more = line (scanner.lineNumber + more)
  handedOut_eq : ∀ more, image.handedOut + more = index (scanner.handedOut + more)

section Mirroring

variable {line index : Nat → Nat} {scanner image : Scanner}

theorem Mirrors.takesCode_eq (mirrors : Mirrors line index scanner image)
    (same : image.afterEmpty = scanner.afterEmpty) : image.takesCode = scanner.takesCode := by
  unfold takesCode
  rw [mirrors.block_eq, same]

private theorem Mirrors.setAfterEmpty (mirrors : Mirrors line index scanner image)
    (afterEmpty : Bool) :
    Mirrors line index { scanner with afterEmpty := afterEmpty }
      { image with afterEmpty := afterEmpty } :=
  ⟨mirrors.block_eq, mirrors.blockLine_eq, mirrors.lineNumber_eq, mirrors.handedOut_eq⟩

private theorem Mirrors.onward (mirrors : Mirrors line index scanner image) :
    Mirrors line index { scanner with lineNumber := scanner.lineNumber + 1 }
      { image with lineNumber := image.lineNumber + 1 } := by
  refine ⟨mirrors.block_eq, mirrors.blockLine_eq, fun more => ?_, mirrors.handedOut_eq⟩
  show image.lineNumber + 1 + more = line (scanner.lineNumber + 1 + more)
  rw [Nat.add_assoc, Nat.add_assoc]
  exact mirrors.lineNumber_eq (1 + more)

theorem Mirrors.close_eq (mirrors : Mirrors line index scanner image) :
    image.close.1 = scanner.close.1.map (Sample.renumber line index) ∧
      Mirrors line index scanner.close.2 image.close.2 := by
  unfold close
  rw [mirrors.block_eq]
  split
  next =>
    refine ⟨rfl, rfl, fun open_ => absurd rfl open_, mirrors.lineNumber_eq, ?_⟩
    exact mirrors.handedOut_eq
  next notBlank =>
    have open_ : scanner.block ≠ [] := by
      intro nothing
      rw [nothing] at notBlank
      exact notBlank rfl
    constructor
    · rw [mirrors.blockLine_eq open_]
      exact congrArg (fun count => some (Sample.mk _ _ count)) (mirrors.handedOut_eq 0)
    · refine ⟨rfl, fun again => absurd rfl again, mirrors.lineNumber_eq, fun more => ?_⟩
      show image.handedOut + 1 + more = index (scanner.handedOut + 1 + more)
      rw [Nat.add_assoc, Nat.add_assoc]
      exact mirrors.handedOut_eq (1 + more)

private theorem Mirrors.addCode (mirrors : Mirrors line index scanner image) (read : Text) :
    Mirrors line index (scanner.addCode read) (image.addCode read) := by
  refine ⟨?_, fun _ => ?_, mirrors.lineNumber_eq, mirrors.handedOut_eq⟩
  · show image.block ++ codeOfLine read = scanner.block ++ codeOfLine read
    rw [mirrors.block_eq]
  · show (if image.block.isEmpty then image.lineNumber else image.blockLine) =
      line (if scanner.block.isEmpty then scanner.lineNumber else scanner.blockLine)
    rw [mirrors.block_eq]
    cases shape : scanner.block with
    | nil => exact mirrors.lineNumber_eq 0
    | cons head tail =>
        apply mirrors.blockLine_eq
        rw [shape]
        exact List.cons_ne_nil _ _

/-- Two such scanners read a line alike if they agree on whether to take it as code.  From
then on they agree on that for every line, for they have come upon the same kind of line. -/
theorem Mirrors.readLine_eq (mirrors : Mirrors line index scanner image) {read : Text}
    (alike : isIndented read = true → image.takesCode = scanner.takesCode) :
    (image.readLine read).1 = (scanner.readLine read).1.map (Sample.renumber line index) ∧
      Mirrors line index (scanner.readLine read).2 (image.readLine read).2 ∧
      (image.readLine read).2.afterEmpty = (scanner.readLine read).2.afterEmpty := by
  have taken : (isIndented read && image.takesCode) = (isIndented read && scanner.takesCode) := by
    cases indented : isIndented read with
    | false => rfl
    | true => rw [alike indented]
  unfold readLine
  rw [taken]
  split
  · exact ⟨rfl, (mirrors.setAfterEmpty true).onward, rfl⟩
  split
  · exact ⟨rfl, (mirrors.addCode read).onward, rfl⟩
  · obtain ⟨handsOut, closed⟩ := (mirrors.setAfterEmpty false).close_eq
    refine ⟨handsOut, closed.onward, ?_⟩
    show (close { image with afterEmpty := false }).2.afterEmpty =
      (close { scanner with afterEmpty := false }).2.afterEmpty
    rw [close_afterEmpty, close_afterEmpty]

/-- The samples of two such scanners are the same but for their numbers.  Only the line read
first can be taken by one of them and refused by the other. -/
theorem Mirrors.samplesFrom_eq (mirrors : Mirrors line index scanner image)
    (remaining : List Text)
    (alike : ∀ read ∈ remaining.head?,
      isIndented read = true → image.takesCode = scanner.takesCode) :
    image.samplesFrom remaining =
      (scanner.samplesFrom remaining).map (Sample.renumber line index) := by
  induction remaining generalizing scanner image with
  | nil =>
      unfold samplesFrom
      rw [mirrors.close_eq.1, Option.toList_map]
  | cons read remaining inductionHypothesis =>
      obtain ⟨handsOut, onward, same⟩ := mirrors.readLine_eq (alike read rfl)
      have later := inductionHypothesis onward fun _ _ _ => onward.takesCode_eq same
      rw [samplesFrom, samplesFrom, handsOut, later, List.map_append, Option.toList_map]

end Mirroring

end Scanner

end DocSamples
