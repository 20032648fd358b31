import DocSamples.Proofs.CommandLine.StepCode

/-!
Contract: the arguments behind the source file belong to the program.

Owns:
- the command lines with a source file that is no option, and what they ask for;
- what such a command line does, for all arguments behind the source file at once.

What is launched for the build, and what comes of it, is said before any of those arguments is
given.
-/

namespace DocSamples

variable {World : Type}

namespace CommandLine

/-- An argument that does not start with a dash is no option. -/
theorem Argument.ofText_of_head {text : Text} (noDash : text.head? ≠ some '-') :
    Argument.ofText text = .plain := by
  unfold Argument.ofText
  split
  next => exact absurd rfl noDash
  next => exact absurd rfl noDash
  next => exact absurd rfl noDash
  next => rfl

namespace BuildRun

/-- What stands in front of the source file: the program that builds, if one is given. -/
def leading : (neon? : Option Text) → List Text
  | none => []
  | some neon => ["--neon".toList, neon]

/-- Whether a text can be given as the program that builds, and is no option. -/
structure IsProgram (neon : Text) : Prop where
  nonempty : neon ≠ []
  noDash : neon.head? ≠ some '-'

private theorem requestFrom_source (neon? : Option Text) {source : Text}
    (noDash : source.head? ≠ some '-') (arguments : List Text) :
    requestFrom neon? (source :: arguments) = .run ⟨neon?, source, arguments⟩ := by
  unfold requestFrom
  rw [Argument.ofText_of_head noDash]

private theorem requestFrom_neon {neon : Text} (proper : IsProgram neon) (arguments : List Text) :
    requestFrom none ("--neon".toList :: neon :: arguments) = requestFrom (some neon) arguments := by
  have option : Argument.ofText "--neon".toList = .long neonName none := by decide
  have noOption : isOption neon = false := by
    unfold isOption
    rw [Argument.ofText_of_head proper.noDash]
  have filled : neon.isEmpty = false := List.isEmpty_eq_false_iff.2 proper.nonempty
  rw [requestFrom, option]
  dsimp only
  rw [if_pos rfl, filled, noOption]
  rfl

/-- The source file is found behind the option or at once, and all else is left to the program. -/
theorem request_leading {neon? : Option Text} (proper : ∀ neon, neon? = some neon → IsProgram neon)
    {source : Text} (noDash : source.head? ≠ some '-') (arguments : List Text) :
    request (leading neon? ++ source :: arguments) = .run ⟨neon?, source, arguments⟩ := by
  cases neon? with
  | none => exact requestFrom_source none noDash arguments
  | some neon =>
      have behind := requestFrom_neon (proper neon rfl) (source :: arguments)
      exact behind.trans (requestFrom_source (some neon) noDash arguments)

private theorem config_eq (neon? : Option Text) (source : Text) (arguments : List Text) :
    Settings.config ⟨neon?, source, arguments⟩ =
      { neon := neon?.getD ({} : BuildRunConfig).neon } := by
  cases neon? with
  | none => rfl
  | some neon => rfl

end BuildRun

end CommandLine

namespace Host

variable (host : Host World)

open CommandLine.BuildRun in
/-- **The arguments behind the source file belong to the program**, whatever they look like.  The
source file may be any text that does not start with a dash, and the program that builds may be
given in front of it.  Then the command line is building that source file and running it with
exactly the arguments behind it, and reports how that ended.  The build is launched in the same
way, and ends in the same way, for all of them; only the program gets them, in order and
unchanged. -/
theorem runBuildRun_forwards (colored : Bool) {neon? : Option Text}
    (proper : ∀ neon, neon? = some neon → IsProgram neon) {source : Text}
    (noDash : source.head? ≠ some '-') (world : World) :
    let config : BuildRunConfig := { neon := neon?.getD ({} : BuildRunConfig).neon }
    let resolved := host.artifact source (host.build config source world).2
    ∃ built : LaunchAnswer, ∀ arguments : List Text,
      let commandLine := leading neon? ++ source :: arguments
      let answered := host.buildAndRun config source arguments world
      let ended := host.runBuildRun colored commandLine world
      request commandLine = .run ⟨neon?, source, arguments⟩ ∧
      (answered.1 = .ok () → ended = (0, answered.2)) ∧
      (∀ error, answered.1 = .error error → ended = (error.exitCode,
        host.printError (CommandLine.errorLine colored error.message) answered.2)) ∧
      ∃ ran?, BuildCourse.EndsWith config source resolved ⟨built, ran?⟩ answered.1 ∧
        host.journaled.runBuildRun colored commandLine ⟨world, []⟩ =
          (ended.1, ⟨ended.2,
            .run ⟨config.neon, [({} : BuildRunConfig).buildScript, source]⟩ built ::
              (ran?.map fun ran => .run ⟨ran.1, arguments⟩ ran.2).toList⟩) := by
  intro config resolved
  obtain ⟨built, courses⟩ := host.buildAndRun_courses config source world
  refine ⟨built, fun arguments => ?_⟩
  intro commandLine answered ended
  have asks : request commandLine = .run ⟨neon?, source, arguments⟩ :=
    request_leading proper noDash arguments
  have configEq : Settings.config ⟨neon?, source, arguments⟩ = config :=
    config_eq neon? source arguments
  have endedEq : ended = host.reportBuildRun colored ⟨neon?, source, arguments⟩ world := by
    simp only [ended, runBuildRun, asks]
  obtain ⟨ran?, ends, journaled⟩ := courses arguments
  refine ⟨asks, fun succeeded => ?_, fun error failed => ?_, ran?, ends, ?_⟩
  · have whole : host.buildAndRun config source arguments world = (.ok (), answered.2) :=
      Prod.ext succeeded rfl
    rw [endedEq, reportBuildRun, configEq, whole]
    rfl
  · have whole : host.buildAndRun config source arguments world = (.error error, answered.2) :=
      Prod.ext failed rfl
    rw [endedEq, reportBuildRun, configEq, whole]
  · have reported : host.journaled.runBuildRun colored commandLine ⟨world, []⟩ =
        host.journaled.reportBuildRun colored ⟨neon?, source, arguments⟩ ⟨world, []⟩ := by
      simp only [runBuildRun, asks]
    rw [reported, endedEq]
    apply host.reportBuildRun_journaled
    rw [configEq]
    exact journaled []

end Host

/-- A call for help, the option that gives the program that builds, and the terminator, all behind
the source file: what is launched first is the build, and all of them would be handed on. -/
theorem runBuildRun_forwards_options :
    let arguments := ["--help".toList, "--neon".toList, [], "--".toList, "-V".toList]
    let commandLine := "--neon".toList :: "/cat".toList :: "a.neon".toList :: arguments
    CommandLine.BuildRun.request commandLine =
        .run ⟨some "/cat".toList, "a.neon".toList, arguments⟩ ∧
      ∃ built ran?, (Machine.host.journaled.runBuildRun false commandLine
          ⟨.withStaleProgram, []⟩).2.journal =
        BuildCourse.events { neon := "/cat".toList } "a.neon".toList arguments ⟨built, ran?⟩ := by
  intro arguments commandLine
  have proper : ∀ neon, some "/cat".toList = some neon → CommandLine.BuildRun.IsProgram neon := by
    rintro _ ⟨⟩
    exact ⟨by decide, by decide⟩
  have noDash : "a.neon".toList.head? ≠ some '-' := by decide
  obtain ⟨built, forwards⟩ :=
    Machine.host.runBuildRun_forwards false proper noDash .withStaleProgram
  obtain ⟨asks, -, -, ran?, -, journaled⟩ := forwards arguments
  have spelled : CommandLine.BuildRun.leading (some "/cat".toList) ++ "a.neon".toList :: arguments =
      commandLine := rfl
  rw [spelled] at asks journaled
  refine ⟨asks, built, ran?, ?_⟩
  rw [journaled]
  rfl

end DocSamples
