import DocSamples.Path.Artifact
import DocSamples.System.ExitCode
import DocSamples.System.Host

/-!
Contract: building a program from its source file and running it.

Owns:
- the two steps, the commands they run and the path of the program that is built;
- the errors that end them, their wording and the exit codes they stand for.

Both steps run on the streams of this program.  A step that fails ends the whole:
nothing is run after a build that failed.
-/

namespace DocSamples

inductive Step where
  | build
  | run
deriving DecidableEq, Repr

def Step.name : Step → Text
  | .build => "build".toList
  | .run => "run".toList

structure BuildRunConfig where
  neon : Text := "bin/neon".toList
  buildScript : Text := "tools/neonbuild.neon".toList
deriving DecidableEq

inductive StepError where
  | failed (step : Step) (status : Status)
  | notLaunched (step : Step) (program : Text) (cause : SystemError)
  | noArtifact (source : Text) (cause : SystemError)
deriving DecidableEq

namespace StepError

def message : StepError → Text
  | .failed step status =>
    "The ".toList ++ step.name ++ " step failed with ".toList ++ status.message
  | .notLaunched step program cause =>
    "Failed to launch the ".toList ++ step.name ++ " step ('".toList ++ program ++ "'): ".toList ++
      cause.message
  | .noArtifact source cause =>
    "Cannot resolve the artifact for ".toList ++ source ++ ": ".toList ++ cause.message

/-- The exit code that an error stands for: a step's own if it has one. -/
def exitCode : StepError → Int
  | .failed _ status => status.code?.getD 1
  | .notLaunched .. | .noArtifact .. => ExitCode.toolError.number

end StepError

namespace BuildRunConfig

def buildCommand (config : BuildRunConfig) (source : Text) : Command :=
  ⟨config.neon, [config.buildScript, source]⟩

end BuildRunConfig

namespace Host

variable {World : Type} (host : Host World)

/-- Run the command of a step; only an exit code of zero is a success. -/
def runStep (step : Step) (command : Command) (world : World) : Except StepError Unit × World :=
  match host.run command world with
  | (.error cause, after) => (.error (.notLaunched step command.program cause), after)
  | (.ok status, after) =>
    if status.isSuccess then (.ok (), after) else (.error (.failed step status), after)

def build (config : BuildRunConfig) (source : Text) (world : World) :
    Except StepError Unit × World :=
  host.runStep .build (config.buildCommand source)
    (host.log .debug ("Building ".toList ++ source ++ " with ".toList ++ config.neon) world)

/-- The path of the program built from a source file.  A source that starts at the root, or is
empty, does without the working directory. -/
def artifact (source : Text) (world : World) : Except SystemError Text :=
  match host.workingDirectory world with
  | .ok directory => Path.artifact directory source
  | .error cause =>
    if source.isEmpty || Path.isAbsolute source then Path.artifact [] source else .error cause

def runArtifact (source : Text) (arguments : List Text) (world : World) :
    Except StepError Unit × World :=
  match host.artifact source world with
  | .error cause => (.error (.noArtifact source cause), world)
  | .ok program =>
    host.runStep .run ⟨program, arguments⟩
      (host.log .debug ("Running ".toList ++ program) world)

/-- Build a source file, and if that succeeds run the program built from it. -/
def buildAndRun (config : BuildRunConfig) (source : Text) (arguments : List Text)
    (world : World) : Except StepError Unit × World :=
  match host.build config source world with
  | (.error error, after) => (.error error, after)
  | (.ok (), after) => host.runArtifact source arguments after

end Host

end DocSamples
