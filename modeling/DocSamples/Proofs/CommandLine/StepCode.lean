import DocSamples.CommandLine.BuildRun
import DocSamples.Machine.Basic
import DocSamples.Proofs.Program.BuildRun

/-!
Contract: the exit code of the command line that builds a program and runs it.

Owns:
- the exit code that a launch, and a course of building and running, stands for;
- the errors that the steps return, none of which stands for success;
- the exit code of the command line, by its course.

An error hands the exit code of its status through without looking at it.  That a failure is
never taken for a success rests on which errors a step returns.
-/

namespace DocSamples

variable {World : Type}

/-! ## Codes -/

/-- The exit code that a launch stands for: that of its process, if it has one. -/
def LaunchAnswer.code : LaunchAnswer → Int
  | .ok (.exited code) => code
  | .ok .killed => 1
  | .error _ => 2

namespace StepError

theorem failed_exitCode_ne_zero (step : Step) {status : Status} (bad : status ≠ .exited 0) :
    (failed step status).exitCode ≠ 0 := by
  cases status with
  | exited number => exact fun zero => bad (congrArg Status.exited zero)
  | killed => exact (by decide : (1 : Int) ≠ 0)

theorem notLaunched_exitCode_ne_zero (step : Step) (program : Text) (cause : SystemError) :
    (notLaunched step program cause).exitCode ≠ 0 :=
  (by decide : (2 : Int) ≠ 0)

theorem noArtifact_exitCode_ne_zero (source : Text) (cause : SystemError) :
    (noArtifact source cause).exitCode ≠ 0 :=
  (by decide : (2 : Int) ≠ 0)

end StepError

namespace BuildCourse

/-- The exit code that a course stands for: that of the build unless it succeeded, else that of
the program launched after it, or two if there was none. -/
def code (course : BuildCourse) : Int :=
  match course.built with
  | .ok (.exited 0) => (course.ran?.map fun ran => LaunchAnswer.code ran.2).getD 2
  | built => LaunchAnswer.code built

private theorem code_of_bad_build {built : LaunchAnswer} (bad : built ≠ .ok (.exited 0))
    (ran? : Option (Text × LaunchAnswer)) : code ⟨built, ran?⟩ = built.code := by
  unfold code
  split
  next zero => exact absurd zero bad
  next => rfl

variable {config : BuildRunConfig} {source : Text} {resolved : Except SystemError Text}
  {course : BuildCourse}

private theorem FailsWith.exitCode_eq {error : StepError}
    (fails : FailsWith config source resolved course error) : error.exitCode = course.code := by
  cases fails with
  | buildNotLaunched cause => rfl
  | @buildFailed status bad =>
      have badBuild : (.ok status : LaunchAnswer) ≠ .ok (.exited 0) :=
        fun same => bad (Except.ok.inj same)
      rw [code_of_bad_build badBuild]
      cases status with
      | exited number => rfl
      | killed => rfl
  | noArtifact unresolved => rfl
  | runNotLaunched program cause => rfl
  | @runFailed program status bad =>
      cases status with
      | exited number => rfl
      | killed => rfl

theorem FailsWith.exitCode_ne_zero {error : StepError}
    (fails : FailsWith config source resolved course error) : error.exitCode ≠ 0 := by
  cases fails with
  | buildNotLaunched cause => exact StepError.notLaunched_exitCode_ne_zero _ _ _
  | buildFailed bad => exact StepError.failed_exitCode_ne_zero _ bad
  | noArtifact unresolved => exact StepError.noArtifact_exitCode_ne_zero _ _
  | runNotLaunched program cause => exact StepError.notLaunched_exitCode_ne_zero _ _ _
  | runFailed program bad => exact StepError.failed_exitCode_ne_zero _ bad

end BuildCourse

namespace Host

variable (host : Host World)

/-! ## The errors of the steps -/

def Returns (error : StepError) : Prop :=
  (∃ config source world, (host.build config source world).1 = .error error) ∨
    (∃ source arguments world, (host.runArtifact source arguments world).1 = .error error) ∨
      ∃ config source arguments world,
        (host.buildAndRun config source arguments world).1 = .error error

private theorem exitCode_ne_zero_of_conclude {step : Step} {program : Text} {answer : LaunchAnswer}
    {error : StepError} (concluded : step.conclude program answer = .error error) :
    error.exitCode ≠ 0 := by
  rcases answer.shapes with rfl | ⟨cause, rfl⟩ | ⟨status, bad, rfl⟩
  · exact absurd concluded nofun
  · obtain rfl := Except.error.inj concluded
    exact StepError.notLaunched_exitCode_ne_zero step program cause
  · rw [step.conclude_of_bad program bad] at concluded
    obtain rfl := Except.error.inj concluded
    exact StepError.failed_exitCode_ne_zero step bad

/-- No step returns an error that stands for success. -/
theorem exitCode_ne_zero_of_returns {error : StepError} (returned : host.Returns error) :
    error.exitCode ≠ 0 := by
  rcases returned with ⟨config, source, world, failed⟩ | ⟨source, arguments, world, failed⟩ |
    ⟨config, source, arguments, world, failed⟩
  · obtain ⟨built, midway, plain, _⟩ := host.build_eq config source world
    rw [plain] at failed
    exact exitCode_ne_zero_of_conclude failed
  · cases found : host.artifact source world with
    | error cause =>
        rw [host.runArtifact_of_unresolved found] at failed
        obtain rfl := Except.error.inj failed
        exact StepError.noArtifact_exitCode_ne_zero source cause
    | ok program =>
        obtain ⟨ran, after, plain, _⟩ := host.runArtifact_eq found arguments
        rw [plain] at failed
        exact exitCode_ne_zero_of_conclude failed
  · obtain ⟨course, ends, _⟩ := host.buildAndRun_course config source arguments world
    exact ((ends.error_iff error).1 failed).exitCode_ne_zero

/-! ## The exit code of the command line -/

theorem reportBuildRun_journaled (colored : Bool) (settings : CommandLine.BuildRun.Settings)
    (world : World) {events : List ProcessEvent}
    (journaled : host.journaled.buildAndRun settings.config settings.source settings.arguments
        ⟨world, []⟩ =
      ((host.buildAndRun settings.config settings.source settings.arguments world).1,
        ⟨(host.buildAndRun settings.config settings.source settings.arguments world).2, events⟩)) :
    host.journaled.reportBuildRun colored settings ⟨world, []⟩ =
      ((host.reportBuildRun colored settings world).1,
        ⟨(host.reportBuildRun colored settings world).2, events⟩) := by
  unfold reportBuildRun
  rw [journaled]
  rcases host.buildAndRun settings.config settings.source settings.arguments world with
    ⟨error | _, after⟩
  · rfl
  · rfl

/-- **The exit code of the command line that builds a program and runs it**, for every command
line that names a source and every way in which the processes behave.  The command line takes
a course of building and running.  It ends with zero exactly if the build and the program were
both launched and both ended with zero, and always with the code of its course: that of the
first process that did not end with zero, one if a signal killed it, and two if it was not
launched or the program has no path.  No error that a step returns stands for zero, though an
error hands through whatever code it has. -/
theorem runBuildRun_exitCode (colored : Bool) {arguments : List Text}
    {settings : CommandLine.BuildRun.Settings} (world : World)
    (asks : CommandLine.BuildRun.request arguments = .run settings) :
    let resolved :=
      host.artifact settings.source (host.build settings.config settings.source world).2
    let ended := host.runBuildRun colored arguments world
    (∃ course : BuildCourse,
      host.journaled.runBuildRun colored arguments ⟨world, []⟩ =
        (ended.1,
          ⟨ended.2, course.events settings.config settings.source settings.arguments⟩) ∧
      (∀ program, (∃ ran, course.ran? = some (program, ran)) ↔
        course.built = .ok (.exited 0) ∧ resolved = .ok program) ∧
      (ended.1 = 0 ↔ course.built = .ok (.exited 0) ∧
        ∃ program, course.ran? = some (program, .ok (.exited 0))) ∧
      ended.1 = course.code) ∧
    (∀ error, host.Returns error → error.exitCode ≠ 0) ∧
    ∀ step number, (StepError.failed step (.exited number)).exitCode = number := by
  intro resolved ended
  refine ⟨?_, fun error => host.exitCode_ne_zero_of_returns, fun _ _ => rfl⟩
  obtain ⟨course, ends, journaled⟩ :=
    host.buildAndRun_course settings.config settings.source settings.arguments world
  have endedEq : ended = host.reportBuildRun colored settings world := by
    simp only [ended, runBuildRun, asks]
  have journal : host.journaled.runBuildRun colored arguments ⟨world, []⟩ =
      host.journaled.reportBuildRun colored settings ⟨world, []⟩ := by
    simp only [runBuildRun, asks]
  refine ⟨course, ?_, ends.launches_iff, ?_⟩
  · rw [journal, endedEq, host.reportBuildRun_journaled colored settings world (journaled [])]
    rfl
  · rw [endedEq]
    rcases answered : host.buildAndRun settings.config settings.source settings.arguments world
      with ⟨error | _, after⟩
    · rw [answered] at ends
      have fails := (ends.error_iff error).1 rfl
      have reported : (host.reportBuildRun colored settings world).1 = error.exitCode := by
        simp only [reportBuildRun, answered]
      rw [reported, ← fails.exitCode_eq]
      refine ⟨⟨fun zero => absurd zero fails.exitCode_ne_zero, fun succeeded => ?_⟩, rfl⟩
      exact absurd (ends.ok_iff.2 succeeded) nofun
    · rw [answered] at ends
      obtain ⟨zero, program, ranZero⟩ := ends.ok_iff.1 rfl
      have reported : (host.reportBuildRun colored settings world).1 = 0 := by
        simp only [reportBuildRun, answered]
        rfl
      rw [reported]
      refine ⟨⟨fun _ => ⟨zero, program, ranZero⟩, fun _ => rfl⟩, ?_⟩
      rw [BuildCourse.code, zero, ranZero]
      rfl

end Host

/-! ## A build that fails -/

/-- On a machine, a command that loads as the program that copies its input ends by itself, with
the exit code of that program. -/
theorem Machine.run_of_cat {command : Command} {machine : Machine} {session : Session}
    (here : machine.session machine.input = session) {name : Text} {arguments : List Text}
    (loaded : session.loadCommand command = .ok ⟨.cat, name, arguments⟩) {code : Nat}
    (ended : (Utility.concatenate name arguments session).1 = code) :
    (Machine.host.run command machine).1 = .ok (.exited code) := by
  change (Machine.runCommand command machine).1 = _
  unfold Machine.runCommand
  dsimp only
  rw [here, loaded, ← ended]
  rfl

/-- A machine on which `a.neon` was built before, but the script that builds it is gone. -/
def Machine.withStaleProgram : Machine where
  tree := ⟨[(["cat".toList], .utility .cat), (["a.neon".toList], .file [] false),
    (["a".toList], .utility .cat)]⟩
  workingDirectory := []
  searchPath := []

/-- There, the build cannot read its script, and ends with one. -/
theorem Machine.build_withStaleProgram :
    ∃ after, Machine.host.journaled.build { neon := "/cat".toList } "a.neon".toList
        ⟨.withStaleProgram, []⟩ =
      (.error (.failed .build (.exited 1)), ⟨after,
        [.run ⟨"/cat".toList, ["tools/neonbuild.neon".toList, "a.neon".toList]⟩
          (.ok (.exited 1))]⟩) := by
  let command : Command := ⟨"/cat".toList, ["tools/neonbuild.neon".toList, "a.neon".toList]⟩
  let logged := Machine.host.log .debug
    ("Building ".toList ++ "a.neon".toList ++ " with ".toList ++ "/cat".toList) .withStaleProgram
  have unlogged : logged.session logged.input = Machine.withStaleProgram.session [] := rfl
  have loaded : (Machine.withStaleProgram.session []).loadCommand
      ⟨"/cat".toList, ["tools/neonbuild.neon".toList, "a.neon".toList]⟩ =
        .ok ⟨.cat, "/cat".toList, ["tools/neonbuild.neon".toList, "a.neon".toList]⟩ := rfl
  have unread : (Utility.concatenate "/cat".toList
      ["tools/neonbuild.neon".toList, "a.neon".toList] (Machine.withStaleProgram.session [])).1 =
        1 := by decide +kernel
  have ran : (Machine.host.run command logged).1 = .ok (.exited 1) :=
    Machine.run_of_cat unlogged loaded unread
  have step := Machine.host.runStep_journaled .build command logged []
  rw [ran] at step
  exact ⟨(Machine.host.run command logged).2, step⟩

/-- There, the command line ends with the exit code of the build. -/
theorem runBuildRun_withStaleProgram :
    CommandLine.BuildRun.request
        ["--neon".toList, "/cat".toList, "a.neon".toList, "--neon".toList] =
      .run ⟨some "/cat".toList, "a.neon".toList, ["--neon".toList]⟩ ∧
    (Machine.host.runBuildRun false
      ["--neon".toList, "/cat".toList, "a.neon".toList, "--neon".toList] .withStaleProgram).1 =
        1 := by
  have asks : CommandLine.BuildRun.request
      ["--neon".toList, "/cat".toList, "a.neon".toList, "--neon".toList] =
        .run ⟨some "/cat".toList, "a.neon".toList, ["--neon".toList]⟩ := by decide +kernel
  obtain ⟨⟨⟨built, ran?⟩, journaled, _, _, code⟩, _⟩ :=
    Machine.host.runBuildRun_exitCode false .withStaleProgram asks
  refine ⟨asks, code.trans ?_⟩
  obtain ⟨after, failed⟩ := Machine.build_withStaleProgram
  have stopped := Machine.host.journaled.buildAndRun_of_failed failed ["--neon".toList]
  have journal : (Machine.host.journaled.runBuildRun false
      ["--neon".toList, "/cat".toList, "a.neon".toList, "--neon".toList]
      ⟨.withStaleProgram, []⟩).2.journal =
        [.run ⟨"/cat".toList, ["tools/neonbuild.neon".toList, "a.neon".toList]⟩
          (.ok (.exited 1))] := by
    simp only [Host.runBuildRun, asks, Host.reportBuildRun, CommandLine.BuildRun.Settings.config,
      stopped]
    rfl
  rw [journaled] at journal
  have first : built = .ok (.exited 1) :=
    (ProcessEvent.run.inj (List.cons.inj journal).1).2
  rw [first]
  rfl

end DocSamples
