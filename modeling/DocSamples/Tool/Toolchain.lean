import DocSamples.Sample.Mode
import DocSamples.Tool.Feed

/-!
Contract: the toolchain that checks samples.

Owns:
- which program checks samples of which mode, and the argument that makes it read
  from its input;
- running a sample through it.
-/

namespace DocSamples

structure ToolchainConfig where
  compileOnly : Text := "bin/neonc".toList
  compileAndRun : Text := "bin/neon".toList
  inputArgument : Text := ['-']
deriving DecidableEq

namespace ToolchainConfig

/-- The program in charge of a mode. -/
def programFor (config : ToolchainConfig) : Mode → Text
  | .compileOnly => config.compileOnly
  | .compileAndRun => config.compileAndRun

def commandFor (config : ToolchainConfig) (mode : Mode) : Command :=
  ⟨config.programFor mode, [config.inputArgument]⟩

end ToolchainConfig

/-- Something that checks code in a mode, in a world that it may change. -/
abbrev Runner (World : Type) :=
  Mode → Text → World → Except ToolError Status × World

/-- The runner that gives code to the configured programs. -/
def Host.toolchain {World : Type} (host : Host World) (config : ToolchainConfig) : Runner World :=
  fun mode code world =>
    host.feed (config.commandFor mode) code
      (host.log .debug
        ("Running ".toList ++ config.programFor mode ++ " (".toList ++ mode.name ++ ")".toList)
        world)

end DocSamples
