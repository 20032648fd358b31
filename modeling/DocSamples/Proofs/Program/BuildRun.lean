import DocSamples.Program.BuildRun
import DocSamples.Proofs.Tool.Journal

/-!
Contract: the processes that building and running a program launches.

Owns:
- the courses that building and running can take, and the launches of each (`BuildCourse`);
- the step: the one launch of a step, and how the step ends by what came of it;
- the whole: which course is taken, and the error that it ends with.

Does not own: what a command line makes of that error (`Proofs/CommandLine/StepCode`).

What a launched process does is left to the host: it may change all files, or take away the
directory that relative paths start from.  The path of the artifact is therefore looked for in
the world that the build leaves.
-/

namespace DocSamples

variable {World : Type}

/-! ## Courses -/

abbrev LaunchAnswer := Except SystemError Status

structure BuildCourse where
  built : LaunchAnswer
  /-- The program that was launched after it, if one was, and what came of that. -/
  ran? : Option (Text × LaunchAnswer)

namespace BuildCourse

def events (config : BuildRunConfig) (source : Text) (arguments : List Text)
    (course : BuildCourse) : List ProcessEvent :=
  .run ⟨config.neon, [config.buildScript, source]⟩ course.built ::
    (course.ran?.map fun ran => .run ⟨ran.1, arguments⟩ ran.2).toList

/-- Whether a step of a course fails, and which error is that of the first that does.
`resolved` is the path of the artifact, or why there is none. -/
inductive FailsWith (config : BuildRunConfig) (source : Text)
    (resolved : Except SystemError Text) : BuildCourse → StepError → Prop
  | buildNotLaunched (cause : SystemError) :
      FailsWith config source resolved ⟨.error cause, none⟩ (.notLaunched .build config.neon cause)
  | buildFailed {status : Status} (bad : status ≠ .exited 0) :
      FailsWith config source resolved ⟨.ok status, none⟩ (.failed .build status)
  | noArtifact {cause : SystemError} (unresolved : resolved = .error cause) :
      FailsWith config source resolved ⟨.ok (.exited 0), none⟩ (.noArtifact source cause)
  | runNotLaunched (program : Text) (cause : SystemError) :
      FailsWith config source resolved ⟨.ok (.exited 0), some (program, .error cause)⟩
        (.notLaunched .run program cause)
  | runFailed (program : Text) {status : Status} (bad : status ≠ .exited 0) :
      FailsWith config source resolved ⟨.ok (.exited 0), some (program, .ok status)⟩
        (.failed .run status)

/-- Whether a course is one that building and running can take, and ends with an answer. -/
structure EndsWith (config : BuildRunConfig) (source : Text)
    (resolved : Except SystemError Text) (course : BuildCourse) (answer : Except StepError Unit) :
    Prop where
  /-- A program is launched exactly after a build that succeeded, and it is the artifact. -/
  launches_iff : ∀ program, (∃ ran, course.ran? = some (program, ran)) ↔
    course.built = .ok (.exited 0) ∧ resolved = .ok program
  ok_iff : answer = .ok () ↔
    course.built = .ok (.exited 0) ∧ ∃ program, course.ran? = some (program, .ok (.exited 0))
  error_iff : ∀ error, answer = .error error ↔ FailsWith config source resolved course error

end BuildCourse

/-! ## One step -/

def Step.conclude (step : Step) (program : Text) : LaunchAnswer → Except StepError Unit
  | .error cause => .error (.notLaunched step program cause)
  | .ok status => if status.isSuccess then .ok () else .error (.failed step status)

theorem Step.conclude_of_bad (step : Step) (program : Text) {status : Status}
    (bad : status ≠ .exited 0) :
    step.conclude program (.ok status) = .error (.failed step status) := by
  have failed : ¬ status.isSuccess = true := fun passed => bad ((Status.isSuccess_iff status).1 passed)
  rw [conclude, if_neg failed]

theorem LaunchAnswer.shapes (answer : LaunchAnswer) :
    answer = .ok (.exited 0) ∨ (∃ cause, answer = .error cause) ∨
      ∃ status, status ≠ .exited 0 ∧ answer = .ok status := by
  cases answer with
  | error cause => exact .inr (.inl ⟨cause, rfl⟩)
  | ok status =>
      by_cases zero : status = .exited 0
      · exact .inl (congrArg _ zero)
      · exact .inr (.inr ⟨status, zero, rfl⟩)

private theorem Step.conclude_of_not_success (step : Step) (program : Text) {answer : LaunchAnswer}
    (bad : answer ≠ .ok (.exited 0)) : ∃ error, step.conclude program answer = .error error := by
  rcases answer.shapes with zero | ⟨cause, rfl⟩ | ⟨status, badStatus, rfl⟩
  · exact absurd zero bad
  · exact ⟨_, rfl⟩
  · exact ⟨_, step.conclude_of_bad program badStatus⟩

/-! ## How courses end -/

namespace BuildCourse

variable (config : BuildRunConfig) (source : Text) {resolved : Except SystemError Text}

private theorem endsWith_of_bad_build {built : LaunchAnswer} (bad : built ≠ .ok (.exited 0)) :
    EndsWith config source resolved ⟨built, none⟩ (Step.build.conclude config.neon built) where
  launches_iff program := by simp [bad]
  ok_iff := by
    rcases built.shapes with zero | ⟨cause, rfl⟩ | ⟨status, badStatus, rfl⟩
    · exact absurd zero bad
    · simp [Step.conclude]
    · simp [Step.conclude_of_bad _ _ badStatus]
  error_iff error := by
    rcases built.shapes with zero | ⟨cause, rfl⟩ | ⟨status, badStatus, rfl⟩
    · exact absurd zero bad
    · constructor
      · intro same
        obtain rfl := Except.error.inj same
        exact .buildNotLaunched cause
      · rintro ⟨⟩
        rfl
    · rw [Step.conclude_of_bad _ _ badStatus]
      constructor
      · intro same
        obtain rfl := Except.error.inj same
        exact .buildFailed badStatus
      · intro fails
        cases fails with
        | buildFailed _ => rfl
        | noArtifact _ => exact absurd rfl badStatus

private theorem endsWith_of_unresolved {cause : SystemError}
    (unresolved : resolved = .error cause) :
    EndsWith config source resolved ⟨.ok (.exited 0), none⟩ (.error (.noArtifact source cause)) where
  launches_iff program := by simp [unresolved]
  ok_iff := by simp
  error_iff error := by
    constructor
    · intro same
      obtain rfl := Except.error.inj same
      exact .noArtifact unresolved
    · intro fails
      cases fails with
      | buildFailed bad => exact absurd rfl bad
      | noArtifact other =>
          obtain rfl := Except.error.inj (unresolved.symm.trans other)
          rfl

private theorem endsWith_of_ran {program : Text} (found : resolved = .ok program)
    (ran : LaunchAnswer) :
    EndsWith config source resolved ⟨.ok (.exited 0), some (program, ran)⟩
      (Step.run.conclude program ran) where
  launches_iff other := by simp [found]
  ok_iff := by
    rcases ran.shapes with rfl | ⟨cause, rfl⟩ | ⟨status, bad, rfl⟩
    · exact ⟨fun _ => ⟨rfl, program, rfl⟩, fun _ => rfl⟩
    · simp [Step.conclude]
    · simp [Step.conclude_of_bad _ _ bad, bad]
  error_iff error := by
    rcases ran.shapes with rfl | ⟨cause, rfl⟩ | ⟨status, bad, rfl⟩
    · constructor
      · exact nofun
      · intro fails
        cases fails with
        | runFailed _ bad => exact absurd rfl bad
    · constructor
      · intro same
        obtain rfl := Except.error.inj same
        exact .runNotLaunched program cause
      · rintro ⟨⟩
        rfl
    · rw [Step.conclude_of_bad _ _ bad]
      constructor
      · intro same
        obtain rfl := Except.error.inj same
        exact .runFailed program bad
      · rintro ⟨⟩
        rfl

private theorem EndsWith.launched {config : BuildRunConfig} {source : Text} {course : BuildCourse}
    {answer : Except StepError Unit} (ends : EndsWith config source resolved course answer)
    (arguments : List Text) :
    (course.events config source arguments).filterMap ProcessEvent.launch? =
      ⟨config.neon, [config.buildScript, source]⟩ ::
        (match course.built, resolved with
        | .ok (.exited 0), .ok program => [⟨program, arguments⟩]
        | _, _ => []) := by
  obtain ⟨built, ran?⟩ := course
  rcases ran? with _ | ⟨program, ran⟩
  · have noLaunch : ∀ program, ¬ (built = .ok (.exited 0) ∧ resolved = .ok program) := by
      intro program both
      obtain ⟨ran, launched⟩ := (ends.launches_iff program).2 both
      exact absurd launched nofun
    split
    next program zero => exact absurd ⟨zero, rfl⟩ (noLaunch program)
    next => rfl
  · obtain ⟨rfl, rfl⟩ := (ends.launches_iff program).1 ⟨ran, rfl⟩
    rfl

end BuildCourse

/-! ## The launches of the steps -/

namespace Host

variable (host : Host World)

/-- The step: one launch, which decides how the step ends. -/
theorem runStep_eq (step : Step) (command : Command) (world : World) :
    host.runStep step command world =
      (step.conclude command.program (host.run command world).1, (host.run command world).2) := by
  unfold runStep Step.conclude
  rcases host.run command world with ⟨cause | status, after⟩
  · rfl
  · dsimp only
    split
    · rfl
    · rfl

theorem runStep_journaled (step : Step) (command : Command) (world : World)
    (journal : List ProcessEvent) :
    host.journaled.runStep step command ⟨world, journal⟩ =
      (step.conclude command.program (host.run command world).1,
        ⟨(host.run command world).2, journal ++ [.run command (host.run command world).1]⟩) :=
  runStep_eq host.journaled step command ⟨world, journal⟩

theorem build_eq (config : BuildRunConfig) (source : Text) (world : World) :
    ∃ built midway, host.build config source world = (Step.build.conclude config.neon built, midway) ∧
      ∀ journal, host.journaled.build config source ⟨world, journal⟩ =
        (Step.build.conclude config.neon built,
          ⟨midway, journal ++ [.run ⟨config.neon, [config.buildScript, source]⟩ built]⟩) := by
  let logged := host.log .debug ("Building ".toList ++ source ++ " with ".toList ++ config.neon) world
  exact ⟨(host.run (config.buildCommand source) logged).1,
    (host.run (config.buildCommand source) logged).2, host.runStep_eq _ _ logged,
    fun journal => host.runStep_journaled _ _ logged journal⟩

theorem runArtifact_eq {source program : Text} {world : World}
    (found : host.artifact source world = .ok program) (arguments : List Text) :
    ∃ ran after, host.runArtifact source arguments world = (Step.run.conclude program ran, after) ∧
      ∀ journal, host.journaled.runArtifact source arguments ⟨world, journal⟩ =
        (Step.run.conclude program ran,
          ⟨after, journal ++ [.run ⟨program, arguments⟩ ran]⟩) := by
  let logged := host.log .debug ("Running ".toList ++ program) world
  refine ⟨(host.run ⟨program, arguments⟩ logged).1, (host.run ⟨program, arguments⟩ logged).2,
    ?_, fun journal => ?_⟩
  · rw [runArtifact, found]
    exact host.runStep_eq _ _ logged
  · have foundThere : host.journaled.artifact source ⟨world, journal⟩ = .ok program := found
    rw [runArtifact, foundThere]
    exact host.runStep_journaled _ _ logged journal

theorem runArtifact_of_unresolved {source : Text} {world : World} {cause : SystemError}
    (unresolved : host.artifact source world = .error cause) (arguments : List Text) :
    host.runArtifact source arguments world = (.error (.noArtifact source cause), world) := by
  rw [runArtifact, unresolved]

/-! ## Both steps -/

theorem buildAndRun_of_failed {config : BuildRunConfig} {source : Text} {world midway : World}
    {error : StepError} (failed : host.build config source world = (.error error, midway))
    (arguments : List Text) :
    host.buildAndRun config source arguments world = (.error error, midway) := by
  rw [buildAndRun, failed]

private theorem buildAndRun_of_built {config : BuildRunConfig} {source : Text}
    {world midway : World}
    (built : host.build config source world = (.ok (), midway)) (arguments : List Text) :
    host.buildAndRun config source arguments world =
      host.runArtifact source arguments midway := by
  rw [buildAndRun, built]

/-- The whole: building and running takes a course, and its journal is that of the course.  What
comes of the build is settled before the arguments matter. -/
theorem buildAndRun_courses (config : BuildRunConfig) (source : Text) (world : World) :
    ∃ built : LaunchAnswer, ∀ arguments : List Text,
      let answered := host.buildAndRun config source arguments world
      ∃ ran?, BuildCourse.EndsWith config source
          (host.artifact source (host.build config source world).2) ⟨built, ran?⟩ answered.1 ∧
        ∀ journal, host.journaled.buildAndRun config source arguments ⟨world, journal⟩ =
          (answered.1, ⟨answered.2,
            journal ++ BuildCourse.events config source arguments ⟨built, ran?⟩⟩) := by
  obtain ⟨built, midway, plain, journaled⟩ := host.build_eq config source world
  refine ⟨built, fun arguments => ?_⟩
  intro answered
  by_cases succeeded : built = .ok (.exited 0)
  · subst succeeded
    have answeredEq : answered = host.runArtifact source arguments midway :=
      host.buildAndRun_of_built plain arguments
    have journaledEq : ∀ journal, host.journaled.buildAndRun config source arguments
        ⟨world, journal⟩ = host.journaled.runArtifact source arguments ⟨midway, _⟩ :=
      fun journal => host.journaled.buildAndRun_of_built (journaled journal) arguments
    rw [plain, answeredEq]
    rcases found : host.artifact source midway with cause | program
    · have unresolved := host.runArtifact_of_unresolved found arguments
      refine ⟨none, ?_, fun journal => ?_⟩
      · rw [unresolved]
        exact BuildCourse.endsWith_of_unresolved config source rfl
      · have foundThere : host.journaled.artifact source ⟨midway, journal ++
            [.run ⟨config.neon, [config.buildScript, source]⟩ (.ok (.exited 0))]⟩ = .error cause :=
          found
        rw [journaledEq, unresolved]
        exact host.journaled.runArtifact_of_unresolved foundThere arguments
    · obtain ⟨ran, after, plainRun, journaledRun⟩ := host.runArtifact_eq found arguments
      refine ⟨some (program, ran), ?_, fun journal => ?_⟩
      · rw [plainRun]
        exact BuildCourse.endsWith_of_ran config source rfl ran
      · rw [journaledEq, journaledRun, plainRun, List.append_assoc]
        rfl
  · obtain ⟨error, failed⟩ := Step.build.conclude_of_not_success config.neon succeeded
    rw [failed] at plain
    have answeredEq : answered = (.error error, midway) :=
      host.buildAndRun_of_failed plain arguments
    refine ⟨none, ?_, fun journal => ?_⟩
    · rw [plain, answeredEq, ← failed]
      exact BuildCourse.endsWith_of_bad_build config source succeeded
    · have journaledFailed := journaled journal
      rw [failed] at journaledFailed
      rw [answeredEq]
      exact host.journaled.buildAndRun_of_failed journaledFailed arguments

theorem buildAndRun_course (config : BuildRunConfig) (source : Text) (arguments : List Text)
    (world : World) :
    let answered := host.buildAndRun config source arguments world
    ∃ course : BuildCourse,
      course.EndsWith config source (host.artifact source (host.build config source world).2)
        answered.1 ∧
      ∀ journal, host.journaled.buildAndRun config source arguments ⟨world, journal⟩ =
        (answered.1, ⟨answered.2, journal ++ course.events config source arguments⟩) := by
  obtain ⟨built, courses⟩ := host.buildAndRun_courses config source world
  obtain ⟨ran?, taken⟩ := courses arguments
  exact ⟨⟨built, ran?⟩, taken⟩

/-- **The processes that building and running launches**, for every configuration, source and
argument list and every way in which the processes behave.  Run with a journal, it answers and
leaves the world as it does without one, and the journal is that of a course: the build is
launched, and after a build that ended with the exit code zero the artifact, if it has a path,
with the arguments as they were given.  Nothing else is launched.  The answer is good exactly if
both processes ended with zero, and otherwise the error of the first step that failed.  That an
artifact has no path is reported only after a build that succeeded. -/
theorem buildAndRun_launches (config : BuildRunConfig) (source : Text) (arguments : List Text)
    (world : World) :
    let resolved := host.artifact source (host.build config source world).2
    let answered := host.buildAndRun config source arguments world
    ∃ course : BuildCourse,
      host.journaled.buildAndRun config source arguments ⟨world, []⟩ =
        (answered.1, ⟨answered.2, course.events config source arguments⟩) ∧
      course.EndsWith config source resolved answered.1 ∧
      (course.events config source arguments).filterMap ProcessEvent.launch? =
        ⟨config.neon, [config.buildScript, source]⟩ ::
          (match course.built, resolved with
          | .ok (.exited 0), .ok program => [⟨program, arguments⟩]
          | _, _ => []) ∧
      ∀ path cause, answered.1 = .error (.noArtifact path cause) →
        path = source ∧ resolved = .error cause ∧ course.built = .ok (.exited 0) := by
  intro resolved answered
  obtain ⟨course, ends, journaled⟩ := host.buildAndRun_course config source arguments world
  refine ⟨course, journaled [], ends, ends.launched arguments, ?_⟩
  intro path cause ended
  cases (ends.error_iff _).1 ended with
  | noArtifact unresolved => exact ⟨rfl, unresolved, rfl⟩

end Host

end DocSamples
