import DocSamples.Proofs.Sample.Renumbering

/-!
Contract: samples that are asked for one at a time.

Owns:
- asking a scanner for its next sample again and again;
- the step: what is handed out and what is left make up what was left before;
- the run: the answers to all questions, and the states between them.

A scanner answers from the middle of a document, with a block dropped on the way or with its
last block still to be closed.  Whatever state it is left in, the samples that are left there
are the same that reading on to the end would find.
-/

namespace DocSamples

/-- The members of a list one by one, so many of them, and nothing once they have run out. -/
def answersFrom (samples : List Sample) (count : Nat) : List (Option Sample) :=
  (samples.take count).map some ++ List.replicate (count - samples.length) none

private theorem answersFrom_succ (samples : List Sample) (count : Nat) :
    answersFrom samples (count + 1) = samples.head? :: answersFrom samples.tail count := by
  cases samples with
  | nil => simp [answersFrom, List.replicate_succ]
  | cons sample samples =>
      unfold answersFrom
      rw [List.take_succ_cons, List.length_cons, Nat.add_sub_add_right]
      rfl

namespace Scanner

/-- Ask for the next sample so many times: the answers, and the state after the last. -/
def askNext (scanner : Scanner) : (count : Nat) → List (Option Sample) × Scanner
  | 0 => ([], scanner)
  | count + 1 =>
    let asked := scanner.next
    let later := asked.2.askNext count
    (asked.1 :: later.1, later.2)

variable {scanner : Scanner}

/-! ## One question -/

/-- The samples in given lines do not depend on the lines that a state carries with it. -/
theorem samplesFrom_of_remaining (scanner : Scanner) (carried read : List Text) :
    samplesFrom { scanner with remaining := carried } read = scanner.samplesFrom read := by
  have mirrors : Mirrors id id scanner { scanner with remaining := carried } :=
    ⟨rfl, fun _ => rfl, fun _ => rfl, fun _ => rfl⟩
  rw [mirrors.samplesFrom_eq read fun _ _ _ => rfl]
  exact List.map_id _

@[simp] theorem readLine_finished (scanner : Scanner) (line : Text) :
    (scanner.readLine line).2.finished = scanner.finished := by
  unfold readLine close addCode
  split
  · rfl
  split
  · rfl
  dsimp only
  split
  · rfl
  · rfl

/-- Reading on to the next sample hands out the first of those that are left, and leaves the
others. -/
theorem nextFrom_eq (remaining : List Text) (reading : scanner.finished = false) :
    (scanner.nextFrom remaining).1 = (scanner.samplesFrom remaining).head? ∧
      (scanner.nextFrom remaining).2.samples = (scanner.samplesFrom remaining).tail := by
  -- A line without a sample is a further round of the same question.
  induction remaining generalizing scanner with
  | nil =>
      unfold nextFrom samplesFrom samples
      cases scanner.close.1 with
      | none => exact ⟨rfl, rfl⟩
      | some sample => exact ⟨rfl, rfl⟩
  | cons line remaining inductionHypothesis =>
      have stillReading : (scanner.readLine line).2.finished = false := by
        rw [readLine_finished, reading]
      unfold nextFrom samplesFrom
      rcases read : scanner.readLine line with ⟨found?, after⟩
      rw [read] at stillReading
      cases found? with
      | none => exact inductionHypothesis stillReading
      | some sample =>
          refine ⟨rfl, ?_⟩
          dsimp only at stillReading ⊢
          unfold samples
          rw [if_neg (Bool.eq_false_iff.1 stillReading), samplesFrom_of_remaining]
          rfl

/-- **One question**, in any state: the answer is the first sample that is left, if one is, and
the state after it is one in which the others are left. -/
theorem next_eq (scanner : Scanner) :
    scanner.next.1 = scanner.samples.head? ∧ scanner.next.2.samples = scanner.samples.tail := by
  unfold next
  cases finished : scanner.finished with
  | true => simp [samples, finished]
  | false =>
      have left : scanner.samples = scanner.samplesFrom scanner.remaining := by
        simp [samples, finished]
      rw [left]
      exact nextFrom_eq scanner.remaining finished

/-- Only the end of the document is answered with nothing. -/
theorem finished_of_nextFrom {remaining : List Text}
    (nothing : (scanner.nextFrom remaining).1 = none) :
    (scanner.nextFrom remaining).2.finished = true := by
  induction remaining generalizing scanner with
  | nil => rfl
  | cons line remaining inductionHypothesis =>
      unfold nextFrom at nothing ⊢
      rcases read : scanner.readLine line with ⟨_ | sample, after⟩
      · rw [read] at nothing
        exact inductionHypothesis nothing
      · rw [read] at nothing
        exact absurd nothing nofun

private theorem finished_of_next (nothing : scanner.next.1 = none) :
    scanner.next.2.finished = true := by
  unfold next at nothing ⊢
  split
  next finished => exact finished
  next reading =>
    rw [if_neg reading] at nothing
    exact finished_of_nextFrom nothing

private theorem next_of_finished (finished : scanner.finished = true) :
    scanner.next = (none, scanner) := by
  unfold next
  rw [if_pos finished]

/-! ## Many questions -/

private theorem askNext_eq (scanner : Scanner) (count : Nat) :
    (scanner.askNext count).1 = answersFrom scanner.samples count ∧
      (scanner.askNext count).2.samples = scanner.samples.drop count := by
  induction count generalizing scanner with
  | zero => exact ⟨by simp [askNext, answersFrom], rfl⟩
  | succ count inductionHypothesis =>
      obtain ⟨answered, left⟩ := scanner.next_eq
      obtain ⟨later, leftThen⟩ := inductionHypothesis scanner.next.2
      rw [left] at later leftThen
      unfold askNext
      dsimp only
      rw [answered, later, leftThen, answersFrom_succ, List.drop_tail]
      exact ⟨rfl, rfl⟩

theorem askNext_of_finished (finished : scanner.finished = true) (count : Nat) :
    scanner.askNext count = (List.replicate count none, scanner) := by
  induction count with
  | zero => rfl
  | succ count inductionHypothesis =>
      unfold askNext
      rw [next_of_finished finished]
      dsimp only
      rw [inductionHypothesis]
      rfl

/-- Once a question has been answered with nothing, the end has been reached, and stays reached. -/
theorem finished_of_mem_askNext {count : Nat} (exhausted : none ∈ (scanner.askNext count).1) :
    (scanner.askNext count).2.finished = true := by
  induction count generalizing scanner with
  | zero => exact absurd exhausted (List.not_mem_nil)
  | succ count inductionHypothesis =>
      unfold askNext at exhausted ⊢
      rcases List.mem_cons.1 exhausted with here | later
      · have finished := finished_of_next here.symm
        dsimp only
        rw [askNext_of_finished finished]
        exact finished
      · exact inductionHypothesis later

end Scanner

/-- **Samples asked for one at a time**, for every text and every number of questions.  The
answers are the samples of the blocks of the document, as far as they were asked for, and nothing
only after all of them.  Whenever the questions stop, the state has the other samples left, which
all further questions get in the same way.  A question that is answered with nothing leaves a
state that answers so for ever, and stays as it is. -/
theorem askNext_ofText (text : Text) (count : Nat) :
    let samples := blockSamples (lines text)
    let asked := (Scanner.ofText text).askNext count
    asked.1 = answersFrom samples count ∧
      asked.2.samples = samples.drop count ∧
      (∀ more, (asked.2.askNext more).1 = answersFrom (samples.drop count) more) ∧
      (none ∈ asked.1 → ∀ more, asked.2.askNext more = (List.replicate more none, asked.2)) := by
  intro samples asked
  obtain ⟨answered, left⟩ := (Scanner.ofText text).askNext_eq count
  rw [Scanner.samples_ofText] at answered left
  refine ⟨answered, left, fun more => ?_, fun exhausted more => ?_⟩
  · rw [(asked.2.askNext_eq more).1, left]
  · exact Scanner.askNext_of_finished (Scanner.finished_of_mem_askNext exhausted) more

/-- A block of white space is passed over on the way to a sample, and another at the end. -/
example : ((Scanner.ofText "    a\nb\n\n     \nc\n\n    d\ne\n\n     ".toList).askNext 4).1 =
    [some ⟨"a\n".toList, 1, 0⟩, some ⟨"d\n".toList, 7, 1⟩, none, none] := by
  decide +kernel

end DocSamples
