import DocSamples.Proofs.Check.Trace
import DocSamples.Proofs.Sample.Extraction
import Mathlib.Algebra.Ring.Nat

/-!
Contract: what a check answers.

Owns:
- the counts over documents (`Summary.ofDocuments`);
- the answer of a check, read off the steps that it would take;
- the place of every call among the steps: its document was announced before it and
  the samples in front of it were called before it.

A check that nothing stops counts every document of its stream; any other answers with
the failure of the first step that fails.
-/

namespace DocSamples

/-! ## Counts -/

namespace Summary

def countDocument (summary : Summary) (document : Document) : Summary :=
  ((extract document.text).foldl (fun counts sample => counts.countSample (classify sample.code))
    summary).countFile

/-- The counts over documents: how many there are, how many samples they hold together,
and how many of these are only compiled. -/
def ofDocuments (documents : List Document) : Summary where
  files := documents.length
  samples := (documents.map fun document => (extract document.text).length).sum
  compileOnly :=
    (documents.flatMap fun document => extract document.text).countP
      fun sample => classify sample.code = .compileOnly

private theorem foldl_countSample (samples : List Sample) (summary : Summary) :
    samples.foldl (fun counts sample => counts.countSample (classify sample.code)) summary =
      { files := summary.files
        samples := summary.samples + samples.length
        compileOnly := summary.compileOnly +
          samples.countP fun sample => classify sample.code = .compileOnly } := by
  induction samples generalizing summary with
  | nil => rfl
  | cons sample samples inductionHypothesis =>
      rw [List.foldl_cons, inductionHypothesis]
      simp only [countSample, List.length_cons, List.countP_cons, decide_eq_true_eq, mk.injEq]
      exact ⟨trivial, by omega, by omega⟩

private theorem foldl_countDocument (documents : List Document) (summary : Summary) :
    documents.foldl countDocument summary =
      { files := summary.files + (ofDocuments documents).files
        samples := summary.samples + (ofDocuments documents).samples
        compileOnly := summary.compileOnly + (ofDocuments documents).compileOnly } := by
  induction documents generalizing summary with
  | nil => rfl
  | cons document documents inductionHypothesis =>
      rw [List.foldl_cons, inductionHypothesis, countDocument, foldl_countSample]
      simp only [countFile, ofDocuments, List.length_cons, List.map_cons, List.sum_cons,
        List.flatMap_cons, List.countP_append, mk.injEq]
      omega

/-- Counting documents one after another gives the counts over them. -/
theorem foldl_countDocument_empty (documents : List Document) :
    documents.foldl countDocument {} = ofDocuments documents := by
  rw [foldl_countDocument]
  simp

end Summary

def documentsOf (items : List Fetched) : List Document :=
  items.filterMap fun
    | .ok document => some document
    | .error _ => none

/-! ## Failures -/

namespace CheckStep

theorem findSome?_failure? (steps : List CheckStep) :
    steps.findSome? failure? = (steps.find? fails).bind failure? := by
  induction steps with
  | nil => rfl
  | cons step steps inductionHypothesis =>
      have decides := isSome_failure? step
      rw [List.findSome?_cons, List.find?_cons, ← decides, inductionHypothesis]
      cases failure : step.failure? with
      | none => rfl
      | some error => exact failure.symm

private theorem findSome?_failure?_eq_none_iff (steps : List CheckStep) :
    steps.findSome? failure? = none ↔ steps.find? fails = none := by
  rw [List.findSome?_eq_none_iff, List.find?_eq_none]
  simp only [← isSome_failure?, Option.not_isSome_iff_eq_none]

/-- No step fails exactly if no document is lost and all calls are answered with the exit
code zero. -/
theorem find?_fails_eq_none_iff (steps : List CheckStep) :
    steps.find? fails = none ↔
      (∀ error, .error error ∉ pulledItems steps) ∧
        ∀ document sample answer, .call document sample answer ∈ steps →
          answer = .ok (.exited 0) := by
  rw [List.find?_eq_none]
  constructor
  · intro free
    constructor
    · intro error lost
      exact absurd rfl (free _ (mem_pulledItems.1 lost))
    · intro document sample answer member
      have passes := free _ member
      cases answer with
      | error error => exact absurd rfl passes
      | ok status => simpa [fails] using passes
  · rintro ⟨noneLost, allPass⟩ step member
    cases step with
    | pull fetched? =>
        rcases fetched? with _ | error | document
        · exact Bool.false_ne_true
        · exact absurd (mem_pulledItems.2 member) (noneLost error)
        · exact Bool.false_ne_true
    | announce document => exact Bool.false_ne_true
    | call document sample answer =>
        rw [allPass document sample answer member]
        exact Bool.false_ne_true

theorem failure?_eq_sourceFailed_iff {step : CheckStep} {error : SourceError} :
    step.failure? = some (.sourceFailed error) ↔ step = .pull (some (.error error)) := by
  cases step with
  | pull fetched? => rcases fetched? with _ | _ | _ <;> simp [failure?]
  | announce document => simp [failure?]
  | call document sample answer =>
      cases answer with
      | error error => simp [failure?]
      | ok status => by_cases success : status = .exited 0 <;> simp [failure?, success]

theorem failure?_eq_toolFailed_iff {step : CheckStep} {file : Text} {error : ToolError} :
    step.failure? = some (.toolFailed file error) ↔
      ∃ document sample, step = .call document sample (.error error) ∧ document.name = file := by
  cases step with
  | pull fetched? => rcases fetched? with _ | _ | _ <;> simp [failure?]
  | announce document => simp [failure?]
  | call document sample answer =>
      cases answer with
      | error cause =>
          simp only [failure?, Option.some.injEq, CheckError.toolFailed.injEq, call.injEq,
            Except.error.injEq]
          constructor
          · rintro ⟨named, same⟩
            exact ⟨document, sample, ⟨rfl, rfl, same⟩, named⟩
          · rintro ⟨_, _, ⟨rfl, rfl, same⟩, named⟩
            exact ⟨named, same⟩
      | ok status => by_cases success : status = .exited 0 <;> simp [failure?, success]

theorem failure?_eq_sampleFailed_iff {step : CheckStep} {file : Text} {index line : Nat}
    {mode : Mode} {status : Status} :
    step.failure? = some (.sampleFailed file index line mode status) ↔
      status ≠ .exited 0 ∧ ∃ document sample, step = .call document sample (.ok status) ∧
        document.name = file ∧ sample.index = index ∧ sample.line = line ∧
          classify sample.code = mode := by
  cases step with
  | pull fetched? => rcases fetched? with _ | _ | _ <;> simp [failure?]
  | announce document => simp [failure?]
  | call document sample answer =>
      cases answer with
      | error error => simp [failure?]
      | ok ended =>
          simp only [failure?, call.injEq, Except.ok.injEq]
          constructor
          · intro failed
            split at failed
            next => exact absurd failed (by simp)
            next bad =>
              simp only [Option.some.injEq, CheckError.sampleFailed.injEq] at failed
              obtain ⟨named, indexed, lined, moded, rfl⟩ := failed
              exact ⟨bad, document, sample, ⟨rfl, rfl, rfl⟩, named, indexed, lined, moded⟩
          · rintro ⟨bad, _, _, ⟨rfl, rfl, rfl⟩, rfl, rfl, rfl, rfl⟩
            rw [if_neg bad]

end CheckStep

/-! ## The place of a call -/

namespace Console

variable {World : Type} (console : Console World) (runner : Runner World)

/-- The calls of a document are one for each sample, in order. -/
theorem sampleSteps_split {document found : Document} {samples : List Sample} {world : World}
    {sample : Sample} {answer : Except ToolError Status} {passed later : List CheckStep}
    (split : (console.sampleSteps runner document samples world).1 =
      passed ++ .call found sample answer :: later) :
    found = document ∧ samples[passed.length]? = some sample ∧
      passed.map CheckStep.event =
        (samples.take passed.length).map fun before =>
          .call (classify before.code) before.code := by
  induction samples generalizing world passed with
  | nil => exact absurd split (by simp [sampleSteps])
  | cons first samples inductionHypothesis =>
      rw [sampleSteps] at split
      cases passed with
      | nil =>
          rw [List.nil_append, List.cons.injEq, CheckStep.call.injEq] at split
          obtain ⟨⟨rfl, rfl, _⟩, _⟩ := split
          exact ⟨rfl, rfl, rfl⟩
      | cons step passed =>
          rw [List.cons_append, List.cons.injEq] at split
          obtain ⟨rfl, split⟩ := split
          obtain ⟨same, there, before⟩ := inductionHypothesis split
          exact ⟨same, there, by rw [List.map_cons, before]; rfl⟩

/-- In a full trace, a call is one of its document's: the document was pulled and
announced, and since then exactly the samples in front of this one were called. -/
theorem fullTrace_split {documents : Documents World} {world : World} {document : Document}
    {sample : Sample} {answer : Except ToolError Status} {front back : List CheckStep}
    (split : console.fullTrace runner documents world =
      front ++ .call document sample answer :: back) :
    (extract document.text)[sample.index]? = some sample ∧
      ∃ before passed,
        front = before ++ .pull (some (.ok document)) :: .announce document :: passed ∧
        passed.map CheckStep.event =
          ((extract document.text).take sample.index).map fun earlier =>
            .call (classify earlier.code) earlier.code := by
  induction documents generalizing world front with
  | done =>
      rw [fullTrace] at split
      have member : CheckStep.call document sample answer ∈ [CheckStep.pull none] := by
        rw [split]
        simp
      exact absurd member (by simp)
  | look visit rest inductionHypothesis =>
      rcases looked : visit world with ⟨_ | error | found, after⟩
      · simp only [fullTrace, looked] at split
        exact inductionHypothesis _ split
      · simp only [fullTrace, looked] at split
        cases front with
        | nil => exact absurd split (by simp)
        | cons step front =>
            rw [List.cons_append, List.cons.injEq] at split
            obtain ⟨rfl, split⟩ := split
            obtain ⟨there, before, passed, rfl, calls⟩ := inductionHypothesis _ split
            exact ⟨there, _ :: before, passed, rfl, calls⟩
      · simp only [fullTrace, looked] at split
        cases front with
        | nil => exact absurd split (by simp)
        | cons step front =>
          cases front with
          | nil => exact absurd split (by simp)
          | cons next front =>
              rw [List.cons_append, List.cons_append, List.cons.injEq, List.cons.injEq] at split
              obtain ⟨rfl, rfl, split⟩ := split
              -- The call is one of this document's own, or it comes after them all.
              rcases append_cons_eq_append split.symm with
                ⟨later, inDocument, _⟩ | ⟨middle, rfl, remaining⟩
              · obtain ⟨rfl, there, calls⟩ := console.sampleSteps_split runner inDocument
                obtain ⟨indexed, _⟩ := extract_position there
                rw [← indexed] at there calls
                exact ⟨there, [], front, rfl, calls⟩
              · obtain ⟨there, before, passed, rfl, calls⟩ := inductionHypothesis _ remaining
                refine ⟨there, .pull (some (.ok found)) :: .announce found ::
                  ((console.sampleSteps runner found (extract found.text)
                    (console.announce found after)).1 ++ before), passed, ?_, calls⟩
                rw [← List.append_assoc]
                rfl

end Console

/-! ## The answer -/

namespace Console

variable {World : Type} (console : Console World) (runner : Runner World)

/-- A check in which nothing fails counts every document that it pulls. -/
theorem checkFrom_of_passing (documents : Documents World) (summary : Summary) (world : World)
    (passing :
      (console.fullTrace runner documents world).findSome? CheckStep.failure? = none) :
    (console.checkFrom runner documents summary world).1 =
      .ok ((documentsOf (pulledItems (console.fullTrace runner documents world))).foldl
        Summary.countDocument summary) := by
  induction documents generalizing summary world with
  | done => rfl
  | look visit rest inductionHypothesis =>
      rcases looked : visit world with ⟨_ | error | document, after⟩
      · simp only [fullTrace, looked] at passing
        simp only [checkFrom, fullTrace, looked]
        exact inductionHypothesis _ _ _ passing
      · simp only [fullTrace, looked] at passing
        exact absurd passing (by simp [CheckStep.failure?])
      · simp only [fullTrace, looked, List.findSome?_cons, CheckStep.failure?,
          List.findSome?_append, Option.or_eq_none_iff] at passing
        have checked := console.checkSamples_of_passing runner document
          (extract document.text) summary (console.announce document after) passing.1
        simp only [checkFrom, checkDocument, fullTrace, looked, checked, pulledItems_pull,
          pulledItems_announce, pulledItems_append, pulledItems_sampleSteps, List.nil_append]
        exact inductionHypothesis world (summary.countDocument document) _ passing.2

/-- A check in which something fails answers with the first failure. -/
theorem checkFrom_of_failing (documents : Documents World) (summary : Summary) (world : World)
    {error : CheckError}
    (failing :
      (console.fullTrace runner documents world).findSome? CheckStep.failure? = some error) :
    (console.checkFrom runner documents summary world).1 = .error error := by
  induction documents generalizing summary world with
  | done => exact absurd failing (by simp [fullTrace, CheckStep.failure?])
  | look visit rest inductionHypothesis =>
      rcases looked : visit world with ⟨_ | lost | document, after⟩
      · simp only [fullTrace, looked] at failing
        simp only [checkFrom, looked]
        exact inductionHypothesis _ _ _ failing
      · simp only [fullTrace, looked, List.findSome?_cons, CheckStep.failure?,
          Option.some.injEq] at failing
        simp only [checkFrom, looked, failing]
      · simp only [fullTrace, looked, List.findSome?_cons, CheckStep.failure?,
          List.findSome?_append] at failing
        -- Later documents are reached only if all samples of this one pass.
        cases found : (console.sampleSteps runner document (extract document.text)
          (console.announce document after)).1.findSome? CheckStep.failure? with
        | none =>
            have checked := console.checkSamples_of_passing runner document
              (extract document.text) summary (console.announce document after) found
            rw [found, Option.none_or] at failing
            simp only [checkFrom, checkDocument, looked, checked]
            exact inductionHypothesis _ _ _ failing
        | some first =>
            obtain ⟨counted, ended, checked⟩ :=
              console.checkSamples_of_failing runner document _ summary _ found
            rw [found, Option.some_or, Option.some.injEq] at failing
            simp only [checkFrom, checkDocument, looked, checked, failing]

/-- The answer of a check: the counts if no step fails, and the first failure else. -/
theorem check_eq (documents : Documents World) (world : World) :
    (console.check runner documents world).1 =
      match ((console.fullTrace runner documents world).find? CheckStep.fails).bind
        CheckStep.failure? with
      | none =>
        .ok (.ofDocuments
          (documentsOf (pulledItems (console.fullTrace runner documents world))))
      | some error => .error error := by
  rw [← CheckStep.findSome?_failure?]
  cases first : (console.fullTrace runner documents world).findSome? CheckStep.failure? with
  | none =>
      rw [check, console.checkFrom_of_passing runner documents {} world first,
        Summary.foldl_countDocument_empty]
  | some error => exact console.checkFrom_of_failing runner documents {} world first

theorem check_eq_ok_iff (documents : Documents World) (world : World) (summary : Summary) :
    (console.check runner documents world).1 = .ok summary ↔
      (console.fullTrace runner documents world).find? CheckStep.fails = none ∧
        summary = .ofDocuments
          (documentsOf (pulledItems (console.fullTrace runner documents world))) := by
  rw [check_eq, ← CheckStep.findSome?_failure?, ← CheckStep.findSome?_failure?_eq_none_iff]
  cases (console.fullTrace runner documents world).findSome? CheckStep.failure? with
  | none => simp [eq_comm]
  | some error => simp

theorem check_eq_error_iff (documents : Documents World) (world : World) (error : CheckError) :
    (console.check runner documents world).1 = .error error ↔
      ∃ step, (console.fullTrace runner documents world).find? CheckStep.fails = some step ∧
        step.failure? = some error := by
  rw [check_eq]
  rw [← Option.bind_eq_some_iff]
  cases ((console.fullTrace runner documents world).find? CheckStep.fails).bind
    CheckStep.failure? with
  | none => simp
  | some first => simp

/-- **What a check answers.**  It counts all documents of its stream, with their samples,
if no document is lost and every call of the runner answers the exit code zero.  Else its
error is that of the first step that fails: the lost document's own error; or the error of
the tool, with the name of the document; or the status of the tool, with the name of the
document and the index, the line and the mode of the sample.  Each call is for the sample
of its index in its document, which was pulled and announced before all of its calls, and
the line of that number holds the indentation and the first line of the code. -/
theorem check_answer (documents : Documents World) (world : World) :
    let steps := console.fullTrace runner documents world
    let answer := (console.check runner documents world).1
    (∀ summary, answer = .ok summary ↔
      (∀ error, .error error ∉ pulledItems steps) ∧
      (∀ document sample answered, .call document sample answered ∈ steps →
        answered = .ok (.exited 0)) ∧
      summary = .ofDocuments (documentsOf (pulledItems steps))) ∧
    (∀ error, answer = .error (.sourceFailed error) ↔
      steps.find? CheckStep.fails = some (.pull (some (.error error)))) ∧
    (∀ file error, answer = .error (.toolFailed file error) ↔
      ∃ document sample,
        steps.find? CheckStep.fails = some (.call document sample (.error error)) ∧
          document.name = file) ∧
    (∀ file index line mode status,
      answer = .error (.sampleFailed file index line mode status) ↔
        ∃ document sample,
          steps.find? CheckStep.fails = some (.call document sample (.ok status)) ∧
            document.name = file ∧ sample.index = index ∧ sample.line = line ∧
              classify sample.code = mode) ∧
    ∀ front document sample answered back,
      steps = front ++ .call document sample answered :: back →
        (extract document.text)[sample.index]? = some sample ∧
        (∃ first, 0 < sample.line ∧
          (lines document.text)[sample.line - 1]? = some (indent ++ first) ∧
            (lines sample.code).head? = some first) ∧
        ∃ before passed,
          front = before ++ .pull (some (.ok document)) :: .announce document :: passed ∧
            passed.map CheckStep.event =
              ((extract document.text).take sample.index).map fun earlier =>
                .call (classify earlier.code) earlier.code := by
  intro steps answer
  refine ⟨fun summary => ?_, fun error => ?_, fun file error => ?_,
    fun file index line mode status => ?_, fun front document sample answered back split => ?_⟩
  · rw [console.check_eq_ok_iff, CheckStep.find?_fails_eq_none_iff, and_assoc]
  · rw [console.check_eq_error_iff]
    simp only [CheckStep.failure?_eq_sourceFailed_iff, exists_eq_right]
    rfl
  · rw [console.check_eq_error_iff]
    constructor
    · rintro ⟨step, first, failure⟩
      obtain ⟨document, sample, rfl, named⟩ := CheckStep.failure?_eq_toolFailed_iff.1 failure
      exact ⟨document, sample, first, named⟩
    · rintro ⟨document, sample, first, named⟩
      exact ⟨_, first, CheckStep.failure?_eq_toolFailed_iff.2 ⟨document, sample, rfl, named⟩⟩
  · rw [console.check_eq_error_iff]
    constructor
    · rintro ⟨step, first, failure⟩
      obtain ⟨_, document, sample, rfl, position⟩ :=
        CheckStep.failure?_eq_sampleFailed_iff.1 failure
      exact ⟨document, sample, first, position⟩
    · rintro ⟨document, sample, first, position⟩
      have bad : status ≠ .exited 0 := by
        simpa [CheckStep.fails] using List.find?_some first
      exact ⟨_, first,
        CheckStep.failure?_eq_sampleFailed_iff.2 ⟨bad, document, sample, rfl, position⟩⟩
  · obtain ⟨there, order⟩ := console.fullTrace_split runner split
    exact ⟨there, (extract_position there).2, order⟩

end Console

end DocSamples
