import DocSamples.CommandLine.Check
import DocSamples.Machine.Basic
import DocSamples.Proofs.Check.Cause
import DocSamples.Proofs.Check.Verdict
import DocSamples.Proofs.Document.Opening

/-!
Contract: the exit code of the command line that checks samples.

Owns:
- the exit code that the steps of a check stand for, by the first that fails;
- how the source of a selector opens, in terms of what the system answers;
- the exit code of the command line, for every selector that it accepts.

The exit code of a tool decides whether its step fails, and nothing else.
-/

namespace DocSamples

private theorem ExitCode.number_inj {left right : ExitCode} :
    left.number = right.number ↔ left = right := by
  constructor
  · intro same
    cases left <;> cases right <;> first | rfl | exact absurd same (by decide)
  · intro same
    rw [same]

/-! ## The exit code of steps -/

/-- The exit code that the first failing step stands for; success if there is none. -/
def firstCode (steps : List CheckStep) : ExitCode :=
  match steps.find? CheckStep.fails with
  | none => .success
  | some (.call _ _ (.ok _)) => .sampleFailed
  | some _ => .toolError

private theorem firstCode_of_failure {steps : List CheckStep} {step : CheckStep}
    {error : CheckError}
    (first : steps.find? CheckStep.fails = some step) (failure : step.failure? = some error) :
    firstCode steps = error.exitCode := by
  unfold firstCode
  rw [first]
  cases error with
  | sourceFailed lost =>
      rw [CheckStep.failure?_eq_sourceFailed_iff.1 failure]
      rfl
  | toolFailed file cause =>
      obtain ⟨document, sample, rfl, _⟩ := CheckStep.failure?_eq_toolFailed_iff.1 failure
      rfl
  | sampleFailed file index line mode status =>
      obtain ⟨_, document, sample, rfl, _⟩ := CheckStep.failure?_eq_sampleFailed_iff.1 failure
      rfl

theorem firstCode_eq_success_iff (steps : List CheckStep) :
    firstCode steps = .success ↔ steps.find? CheckStep.fails = none := by
  unfold firstCode
  split
  next none => simp [none]
  next first => simp [first]
  next first => simp [first]

private theorem firstCode_eq_sampleFailed_iff (steps : List CheckStep) :
    firstCode steps = .sampleFailed ↔ ∃ document sample status, status ≠ .exited 0 ∧
      steps.find? CheckStep.fails = some (.call document sample (.ok status)) := by
  constructor
  · intro code
    unfold firstCode at code
    split at code
    next => exact absurd code (by simp)
    next document sample status first =>
      have bad : status ≠ .exited 0 := by
        simpa [CheckStep.fails] using List.find?_some first
      exact ⟨document, sample, status, bad, first⟩
    next => exact absurd code (by simp)
  · rintro ⟨document, sample, status, _, first⟩
    unfold firstCode
    rw [first]

private theorem firstCode_eq_toolError_iff (steps : List CheckStep) :
    firstCode steps = .toolError ↔
      (∃ error, steps.find? CheckStep.fails = some (.pull (some (.error error)))) ∨
        ∃ document sample error,
          steps.find? CheckStep.fails = some (.call document sample (.error error)) := by
  constructor
  · intro code
    unfold firstCode at code
    split at code
    next => exact absurd code (by simp)
    next => exact absurd code (by simp)
    next step notEnded first =>
      have failing := List.find?_some first
      cases step with
      | pull fetched? =>
          rcases fetched? with _ | error | document
          · exact absurd failing Bool.false_ne_true
          · exact .inl ⟨error, first⟩
          · exact absurd failing Bool.false_ne_true
      | announce document => exact absurd failing Bool.false_ne_true
      | call document sample answer =>
          cases answer with
          | error error => exact .inr ⟨document, sample, error, first⟩
          | ok status => exact absurd rfl (notEnded document sample status)
  · rintro (⟨error, first⟩ | ⟨document, sample, error, first⟩)
    · unfold firstCode
      rw [first]
    · unfold firstCode
      rw [first]

namespace Host

variable {World : Type} (host : Host World)

/-! ## Opening a source -/

/-- Whether the source of a selector opens as a stream whose check with the toolchain takes
the given steps if nothing stops it. -/
def OpensWith (selector : Selector) (world : World) (steps : List CheckStep) : Prop :=
  ∃ stream after, host.openSource selector world = (.ok (.documents stream), after) ∧
    steps = host.fullTrace (host.toolchain {}) stream after

/-- A revision that git does not list is unavailable. -/
theorem openSource_of_unlisted {reference : Text} {world : World}
    (unlisted : host.CommandFails (listCommand reference) world) :
    ∃ reason after,
      host.openSource (.revision reference) world = (.ok (.unavailable reason), after) := by
  rcases captured : host.capture (listCommand reference) world with ⟨cause | output, after⟩
  · simp [openSource, documentsOfRevision, listRevision, captured]
  · have failed := (commandFails_iff_of_output captured).1 unlisted
    simp [openSource, documentsOfRevision, listRevision, captured, failed]

/-- A revision that git lists opens as a stream. -/
theorem openSource_of_listed {reference : Text} {world : World}
    (listed : ¬ host.CommandFails (listCommand reference) world) :
    ∃ stream after,
      host.openSource (.revision reference) world = (.ok (.documents stream), after) := by
  rcases captured : host.capture (listCommand reference) world with ⟨cause | output, after⟩
  · exact absurd (commandFails_of_error captured) listed
  · rw [commandFails_iff_of_output captured, Bool.not_eq_false] at listed
    simp [openSource, documentsOfRevision, listRevision, captured, listed]

/-- A selector names a missing root or a revision that git does not list, or it opens. -/
theorem opens_cases (selector : Selector) (world : World) :
    (∃ root, selector = .path root ∧ host.pathExists root world = false) ∨
      (∃ reference, selector = .revision reference ∧
        host.CommandFails (listCommand reference) world) ∨
        ∃ steps, host.OpensWith selector world steps := by
  cases selector with
  | path root =>
      cases there : host.pathExists root world with
      | false => exact .inl ⟨root, rfl, there⟩
      | true => exact .inr (.inr ⟨_, _, _, host.openSource_of_exists there, rfl⟩)
  | revision reference =>
      by_cases unlisted : host.CommandFails (listCommand reference) world
      · exact .inr (.inl ⟨reference, rfl, unlisted⟩)
      · obtain ⟨stream, after, opened⟩ := host.openSource_of_listed unlisted
        exact .inr (.inr ⟨_, stream, after, opened, rfl⟩)

/-! ## The exit code of a check -/

/-- Once its source is opened, a check ends with the exit code of its first failing step, or
with success if no step fails. -/
theorem reportCheck_of_opensWith (colored : Bool) {selector : Selector} {world : World}
    {steps : List CheckStep} (opens : host.OpensWith selector world steps) :
    (host.reportCheck colored selector world).1 = firstCode steps := by
  obtain ⟨stream, after, opened, rfl⟩ := opens
  rcases checked : host.check (host.toolchain {}) stream after with ⟨error | summary, ended⟩
  · obtain ⟨step, first, failure⟩ := (host.check_eq_error_iff (host.toolchain {}) stream after
      error).1 (by rw [checked])
    rw [firstCode_of_failure first failure]
    simp only [reportCheck, checkSource, checkWith, opened, checked]
  · obtain ⟨noneFails, _⟩ := (host.check_eq_ok_iff (host.toolchain {}) stream after
      summary).1 (by rw [checked])
    rw [(firstCode_eq_success_iff _).2 noneFails]
    simp only [reportCheck, checkSource, checkWith, opened, checked]

theorem reportCheck_of_missing (colored : Bool) {root : Text} {world : World}
    (missing : host.pathExists root world = false) :
    (host.reportCheck colored (.path root) world).1 = .toolError := by
  simp only [reportCheck, checkSource, checkWith, host.openSource_of_missing missing]
  rfl

theorem reportCheck_of_unlisted (colored : Bool) {reference : Text} {world : World}
    (unlisted : host.CommandFails (listCommand reference) world) :
    (host.reportCheck colored (.revision reference) world).1 = .success := by
  obtain ⟨reason, after, opened⟩ := host.openSource_of_unlisted unlisted
  simp only [reportCheck, checkSource, checkWith, opened]

/-- A check succeeds if its revision cannot be listed, or if its source opens and nothing
fails. -/
theorem reportCheck_eq_success_iff (colored : Bool) (selector : Selector) (world : World) :
    (host.reportCheck colored selector world).1 = .success ↔
      (∃ reference, selector = .revision reference ∧
        host.CommandFails (listCommand reference) world) ∨
        ∃ steps, host.OpensWith selector world steps ∧
          (∀ error, .error error ∉ pulledItems steps) ∧
            ∀ document sample answer, .call document sample answer ∈ steps →
              answer = .ok (.exited 0) := by
  constructor
  · intro success
    rcases host.opens_cases selector world with ⟨root, rfl, missing⟩ | unlisted | ⟨steps, opens⟩
    · rw [host.reportCheck_of_missing colored missing] at success
      exact absurd success (by decide)
    · exact .inl unlisted
    · rw [host.reportCheck_of_opensWith colored opens, firstCode_eq_success_iff,
        CheckStep.find?_fails_eq_none_iff] at success
      exact .inr ⟨steps, opens, success⟩
  · rintro (⟨reference, rfl, unlisted⟩ | ⟨steps, opens, passing⟩)
    · exact host.reportCheck_of_unlisted colored unlisted
    · rw [host.reportCheck_of_opensWith colored opens, firstCode_eq_success_iff,
        CheckStep.find?_fails_eq_none_iff]
      exact passing

/-- A check ends with a failed sample if that is the first step that fails. -/
theorem reportCheck_eq_sampleFailed_iff (colored : Bool) (selector : Selector) (world : World) :
    (host.reportCheck colored selector world).1 = .sampleFailed ↔
      ∃ steps, host.OpensWith selector world steps ∧
        ∃ document sample status, status ≠ .exited 0 ∧
          steps.find? CheckStep.fails = some (.call document sample (.ok status)) := by
  constructor
  · intro failed
    rcases host.opens_cases selector world with
      ⟨root, rfl, missing⟩ | ⟨reference, rfl, unlisted⟩ | ⟨steps, opens⟩
    · rw [host.reportCheck_of_missing colored missing] at failed
      exact absurd failed (by decide)
    · rw [host.reportCheck_of_unlisted colored unlisted] at failed
      exact absurd failed (by decide)
    · rw [host.reportCheck_of_opensWith colored opens, firstCode_eq_sampleFailed_iff] at failed
      exact ⟨steps, opens, failed⟩
  · rintro ⟨steps, opens, failing⟩
    rw [host.reportCheck_of_opensWith colored opens, firstCode_eq_sampleFailed_iff]
    exact failing

/-- A check ends with a tool error if its root is missing, or if the first step that fails is
a document that is lost or a tool that cannot be run. -/
theorem reportCheck_eq_toolError_iff (colored : Bool) (selector : Selector) (world : World) :
    (host.reportCheck colored selector world).1 = .toolError ↔
      (∃ root, selector = .path root ∧ host.pathExists root world = false) ∨
        ∃ steps, host.OpensWith selector world steps ∧
          ((∃ error, steps.find? CheckStep.fails = some (.pull (some (.error error)))) ∨
            ∃ document sample error,
              steps.find? CheckStep.fails = some (.call document sample (.error error))) := by
  constructor
  · intro failed
    rcases host.opens_cases selector world with missing | ⟨reference, rfl, unlisted⟩ | ⟨steps, opens⟩
    · exact .inl missing
    · rw [host.reportCheck_of_unlisted colored unlisted] at failed
      exact absurd failed (by decide)
    · rw [host.reportCheck_of_opensWith colored opens, firstCode_eq_toolError_iff] at failed
      exact .inr ⟨steps, opens, failed⟩
  · rintro (⟨root, rfl, missing⟩ | ⟨steps, opens, failing⟩)
    · exact host.reportCheck_of_missing colored missing
    · rw [host.reportCheck_of_opensWith colored opens, firstCode_eq_toolError_iff]
      exact failing

/-! ## The exit code of the command line -/

private theorem runCheck_number (colored : Bool) {arguments : List Text} {selector? : Option Text}
    (world : World) (asks : CommandLine.Check.request arguments = .run selector?) :
    (host.runCheck colored arguments world).1 =
      (host.reportCheck colored (.parse selector?) world).1.number := by
  simp only [runCheck, asks]

/-- **The exit code of the command line**, for every selector that it accepts.  It is zero
if git does not list the revision, or if the source opens, no document is lost and the tool
of every sample ends with the exit code zero.  It is one if the first failing step is a
sample whose tool ended in another way.  It is two if nothing stands at the root, or if the
first failing step is a document that is lost or a tool that cannot be run.  There is no
other exit code.  Behind a lost document stands a file that was not read or that git did
not give, behind a status the end of a process, and behind a tool that cannot be run one
that was not started, fed or waited for. -/
theorem runCheck_exitCode (colored : Bool) {arguments : List Text} {selector? : Option Text}
    (world : World) (asks : CommandLine.Check.request arguments = .run selector?) :
    let selector := Selector.parse selector?
    let code := (host.runCheck colored arguments world).1
    (code = 0 ↔
      (∃ reference, selector = .revision reference ∧
        host.CommandFails (listCommand reference) world) ∨
        ∃ steps, host.OpensWith selector world steps ∧
          (∀ error, .error error ∉ pulledItems steps) ∧
            ∀ document sample answer, .call document sample answer ∈ steps →
              answer = .ok (.exited 0)) ∧
    (code = 1 ↔
      ∃ steps, host.OpensWith selector world steps ∧
        ∃ document sample status, status ≠ .exited 0 ∧
          steps.find? CheckStep.fails = some (.call document sample (.ok status))) ∧
    (code = 2 ↔
      (∃ root, selector = .path root ∧ host.pathExists root world = false) ∨
        ∃ steps, host.OpensWith selector world steps ∧
          ((∃ error, steps.find? CheckStep.fails = some (.pull (some (.error error)))) ∨
            ∃ document sample error,
              steps.find? CheckStep.fails = some (.call document sample (.error error)))) ∧
    (code = 0 ∨ code = 1 ∨ code = 2) ∧
    ∀ steps, host.OpensWith selector world steps →
      (∀ item ∈ pulledItems steps, host.Explains item) ∧
        ∀ document sample answer, .call document sample answer ∈ steps →
          host.Answers answer := by
  intro selector code
  have codeEq : code = (host.reportCheck colored selector world).1.number :=
    host.runCheck_number colored world asks
  have numbered : ∀ expected : ExitCode,
      code = expected.number ↔ (host.reportCheck colored selector world).1 = expected := by
    intro expected
    rw [codeEq, ExitCode.number_inj]
  refine ⟨?_, ?_, ?_, ?_, ?_⟩
  · exact (numbered .success).trans (host.reportCheck_eq_success_iff colored selector world)
  · exact (numbered .sampleFailed).trans
      (host.reportCheck_eq_sampleFailed_iff colored selector world)
  · exact (numbered .toolError).trans (host.reportCheck_eq_toolError_iff colored selector world)
  · rw [codeEq]
    cases (host.reportCheck colored selector world).1 with
    | success => exact .inl rfl
    | sampleFailed => exact .inr (.inl rfl)
    | toolError => exact .inr (.inr rfl)
  · rintro steps ⟨stream, after, opened, rfl⟩
    constructor
    · exact host.pulledItems_property _ (host.gives_of_openSource opened) after
    · intro document sample answer member
      obtain ⟨before, rfl⟩ := host.answer_of_mem_fullTrace _ member
      exact host.answers_toolchain {} _ _ before

end Host

/-- A machine whose only document is a link to a file that cannot be read. -/
def Machine.withFaultyLink : Machine :=
  (Machine.fresh "/work".toList "/bin".toList).place "a.md".toList (.link "/proc/self/mem".toList)

/-- There, the command line ends with two. -/
theorem runCheck_withFaultyLink :
    (Machine.host.runCheck false ["a.md".toList] .withFaultyLink).1 = 2 := by
  have there : Machine.host.pathExists "a.md".toList .withFaultyLink = true := rfl
  have lost : (Machine.host.fullTrace (Machine.host.toolchain {})
      (if Host.isStandardInput "a.md".toList then .done
        else Machine.host.walkRoot "a.md".toList)
      .withFaultyLink).find? CheckStep.fails =
        some (.pull (some (.error (.unreadable "a.md".toList .inputOutput)))) := rfl
  have asks : CommandLine.Check.request ["a.md".toList] = .run (some "a.md".toList) := rfl
  have code := Machine.host.runCheck_exitCode false .withFaultyLink asks
  have path : Selector.parse (some "a.md".toList) = .path "a.md".toList := rfl
  rw [path] at code
  exact code.2.2.1.2 (.inr ⟨_, ⟨_, _, Machine.host.openSource_of_exists there, rfl⟩,
    .inl ⟨_, lost⟩⟩)

end DocSamples
