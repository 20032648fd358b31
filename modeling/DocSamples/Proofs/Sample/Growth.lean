import DocSamples.Proofs.Sample.Sections

/-!
Contract: the samples of a document to which lines are added at its end.

Owns:
- what later lines can do to the sample of an open block;
- samples that prose has closed;
- the samples of a text that goes on, against those of the text alone.

The end of a text closes the open block just as prose does, so a sample may show less than
the block would become.  It is the last one, it keeps its line and its place, and lines of
code that follow come behind what it has.
-/

namespace DocSamples

/-- Whether prose stands below the first line of a sample, so that no later line can join it. -/
def Sample.ClosedIn (lines : List Text) (sample : Sample) : Prop :=
  ∃ position, sample.line ≤ position ∧ isProseLine lines position = true

namespace Scanner

/-- One more line closes the open block as the end would, or leaves it open with its line and
its place, and perhaps with more code behind what it has. -/
theorem readLine_of_pending {scanner : Scanner} {sample : Sample}
    (pending : scanner.close.1 = some sample) (line : Text) :
    (scanner.readLine line).1 = some sample ∨
      (scanner.readLine line).1 = none ∧
        ∃ more, (scanner.readLine line).2.close.1 =
          some { sample with code := sample.code ++ more } := by
  obtain ⟨notBlank, rfl⟩ := close_eq_some_iff.1 pending
  unfold readLine
  split
  · right
    refine ⟨rfl, [], close_eq_some_iff.2 ⟨notBlank, ?_⟩⟩
    rw [List.append_nil]
  split
  · right
    have open_ : scanner.block.isEmpty = false :=
      List.isEmpty_eq_false_iff.2 (open_of_pending pending)
    have grown : isBlank (scanner.block ++ codeOfLine line) = false := by
      unfold isBlank at notBlank ⊢
      rw [List.all_append, notBlank, Bool.false_and]
    refine ⟨rfl, codeOfLine line, close_eq_some_iff.2 ⟨grown, ?_⟩⟩
    simp [addCode, open_]
  · left
    exact close_eq_some_iff.2 ⟨notBlank, rfl⟩

/-- Whatever lines follow, the sample of the open block comes first, and only its code may be
longer. -/
theorem samplesFrom_of_pending {scanner : Scanner} {sample : Sample}
    (pending : scanner.close.1 = some sample) (remaining : List Text) :
    ∃ more later, scanner.samplesFrom remaining =
      { sample with code := sample.code ++ more } :: later := by
  induction remaining generalizing scanner sample with
  | nil =>
      refine ⟨[], [], ?_⟩
      rw [samplesFrom, pending, List.append_nil]
      rfl
  | cons line remaining inductionHypothesis =>
      rw [samplesFrom]
      rcases readLine_of_pending pending line with closed | ⟨silent, added, stillPending⟩
      · refine ⟨[], (scanner.readLine line).2.samplesFrom remaining, ?_⟩
        rw [closed, List.append_nil]
        rfl
      · obtain ⟨more, later, found⟩ := inductionHypothesis stillPending
        refine ⟨added ++ more, later, ?_⟩
        rw [silent, found, ← List.append_assoc]
        rfl

/-- A block that is open at the end of a document has no prose below its first line. -/
theorem not_closedIn_of_pending {lines : List Text} {sample : Sample}
    (pending : (start.readLines lines).2.close.1 = some sample) : ¬ sample.ClosedIn lines := by
  rintro ⟨position, below, prose⟩
  have tracks := tracks_readLines (le_refl lines.length)
  rw [List.take_length] at tracks
  obtain ⟨first, isOpen, starts⟩ := tracks.exists_first (open_of_pending pending)
  obtain ⟨_, rfl⟩ := close_eq_some_iff.1 pending
  have inside : position < lines.length := by
    by_contra beyond
    rw [isProseLine, List.getElem?_eq_none (Nat.le_of_not_lt beyond)] at prose
    exact Bool.noConfusion prose
  have before : first < position := by
    rw [starts] at below
    exact below
  have free := (noProseBetween_iff _ _ _).1 (mem_openBlock.1 isOpen).2.2 position inside before
  rw [free] at prose
  exact Bool.noConfusion prose

end Scanner

/-- **Adding lines to a document loses and alters no earlier sample.**  Behind a line feed
any text may follow: there are no fewer samples, and each that was there is at its place with
its line, its index and its code, to which only more code may have been added at the end.  A
sample that is not the last, or that prose has closed, is the same. -/
theorem extract_append_lines (front back : Text) :
    (extract front).length ≤ (extract (front ++ '\n' :: back)).length ∧
      ∀ index sample, (extract front)[index]? = some sample →
        (∃ more, (extract (front ++ '\n' :: back))[index]? =
          some { sample with code := sample.code ++ more }) ∧
        (index + 1 < (extract front).length ∨ sample.ClosedIn (lines front) →
          (extract (front ++ '\n' :: back))[index]? = some sample) := by
  have cut : lines (front ++ '\n' :: back) = lines front ++ lines back :=
    splitAt_append_separator '\n' front back
  have openEnd : ∀ sample, (Scanner.start.readLines (lines front)).2.close.1 = some sample →
      ¬ sample.ClosedIn (lines front) := fun _ => Scanner.not_closedIn_of_pending
  rw [extract_eq_samplesFrom, extract_eq_samplesFrom, cut, Scanner.samplesFrom_append,
    Scanner.samplesFrom_eq_readLines]
  -- Both runs hand out the same samples before the end of the first text.
  generalize Scanner.start.readLines (lines front) = read at openEnd ⊢
  constructor
  · rw [List.length_append, List.length_append]
    apply Nat.add_le_add_left
    cases pending : read.2.close.1 with
    | none => exact Nat.zero_le _
    | some last =>
        obtain ⟨more, later, continues⟩ := Scanner.samplesFrom_of_pending pending (lines back)
        rw [continues]
        exact Nat.succ_le_succ (Nat.zero_le _)
  · intro index sample found
    rcases Nat.lt_or_ge index read.1.length with handedOut | atEnd
    · rw [List.getElem?_append_left handedOut] at found ⊢
      refine ⟨⟨[], ?_⟩, fun _ => found⟩
      rw [List.append_nil]
      exact found
    · rw [List.getElem?_append_right atEnd] at found ⊢
      cases pending : read.2.close.1 with
      | none =>
          rw [pending] at found
          exact absurd found (by simp)
      | some last =>
          rw [pending, Option.toList_some, List.getElem?_singleton] at found
          obtain ⟨first, rfl⟩ : index - read.1.length = 0 ∧ last = sample := by
            simpa using found
          obtain ⟨more, later, continues⟩ := Scanner.samplesFrom_of_pending pending (lines back)
          refine ⟨⟨more, ?_⟩, ?_⟩
          · rw [continues, first]
            rfl
          · rintro (notLast | closed)
            · rw [List.length_append, Option.toList_some, List.length_singleton] at notLast
              omega
            · exact absurd closed (openEnd last pending)

/-- A sample that prose has closed, and one that is open at the end and goes on. -/
theorem extract_append_lines_open :
    let front := "A:\n\n    a()\nB:\n\n    b()".toList
    let whole := extract (front ++ '\n' :: "    c()".toList)
    (extract front)[0]? = some ⟨"a()\n".toList, 3, 0⟩ ∧
      (extract front)[1]? = some ⟨"b()\n".toList, 6, 1⟩ ∧
      (extract front).length ≤ whole.length ∧
      whole[0]? = some ⟨"a()\n".toList, 3, 0⟩ ∧
      ∃ more, whole[1]? = some ⟨"b()\n".toList ++ more, 6, 1⟩ := by
  intro front whole
  have first : (extract front)[0]? = some ⟨"a()\n".toList, 3, 0⟩ := by decide +kernel
  have last : (extract front)[1]? = some ⟨"b()\n".toList, 6, 1⟩ := by decide +kernel
  obtain ⟨noFewer, kept⟩ := extract_append_lines front "    c()".toList
  have closed : Sample.ClosedIn (lines front) ⟨"a()\n".toList, 3, 0⟩ :=
    ⟨3, le_refl 3, by decide +kernel⟩
  exact ⟨first, last, noFewer, (kept 0 _ first).2 (Or.inr closed), (kept 1 _ last).1⟩

end DocSamples
