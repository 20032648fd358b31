import DocSamples.CommandLine.Argument
import DocSamples.CommandLine.Report
import DocSamples.Program.BuildRun

/-!
Contract: the command line that builds a program and runs it.

Owns:
- its arguments: options, the source file, and what belongs to the program;
- running it.

Options are only looked for before the source file.  An argument that looks like an
option but is none is the source file, and everything after the source file belongs
to the program, whatever it looks like.
-/

namespace DocSamples

namespace CommandLine.BuildRun

structure Settings where
  neon? : Option Text
  source : Text
  arguments : List Text
deriving DecidableEq

def neonName : Text := "neon".toList

/-- Whether an argument is the terminator or an option of this command line, and so
cannot be the value of another. -/
def isOption (argument : Text) : Bool :=
  match Argument.ofText argument with
  | .terminator => true
  | .long name _ => name == neonName || (commonLong? (α := Unit) name).isSome || name.isEmpty
  | .letters first more => (first :: more).all fun letter => (commonLetter? (α := Unit) letter).isSome
  | .plain => false

/-- What the arguments ask for, given the program that builds if it has been found. -/
def requestFrom (neon? : Option Text) : List Text → Request Settings
  | [] => .misuse
  | argument :: rest =>
    match Argument.ofText argument with
    | .terminator =>
      match rest with
      | [] => .misuse
      | source :: arguments => .run ⟨neon?, source, arguments⟩
    | .plain => .run ⟨neon?, argument, rest⟩
    | .letters first _ =>
      if isOption argument then (commonLetter? first).getD .misuse
      else .run ⟨neon?, argument, rest⟩
    | .long name value? =>
      if name = neonName then
        if neon?.isSome then .misuse
        else
          match value? with
          | some value => if value.isEmpty then .misuse else requestFrom (some value) rest
          | none =>
            match rest with
            | [] => .misuse
            | value :: after =>
              if value.isEmpty || isOption value then .misuse else requestFrom (some value) after
      else if isOption argument then
        if value?.isSome then .misuse else (commonLong? name).getD .misuse
      else .run ⟨neon?, argument, rest⟩

def request (arguments : List Text) : Request Settings :=
  requestFrom none arguments

def Settings.config (settings : Settings) : BuildRunConfig :=
  match settings.neon? with
  | none => {}
  | some neon => { neon := neon }

def usage : Text :=
  "Usage: neon-run [--neon <PATH>] <SOURCE> [ARGS]...\n".toList

def helpMessage : Text :=
  "Build a Neon source file, then run it\n\n".toList ++ usage ++
    "\nOptions are only read before SOURCE; what follows it is passed to the program.\n".toList

end CommandLine.BuildRun

namespace Host

variable {World : Type} (host : Host World)

def reportBuildRun (colored : Bool) (settings : CommandLine.BuildRun.Settings) (world : World) :
    Int × World :=
  match host.buildAndRun settings.config settings.source settings.arguments world with
  | (.ok (), after) => (ExitCode.success.number, after)
  | (.error error, after) =>
    (error.exitCode, host.printError (CommandLine.errorLine colored error.message) after)

def runBuildRun (colored : Bool) (arguments : List Text) (world : World) : Int × World :=
  match CommandLine.BuildRun.request arguments with
  | .version => (ExitCode.success.number, host.print CommandLine.versionLine world)
  | .help => (ExitCode.success.number, host.print CommandLine.BuildRun.helpMessage world)
  | .misuse =>
    (ExitCode.toolError.number,
      host.printError (CommandLine.misuseMessage CommandLine.BuildRun.usage) world)
  | .run settings => host.reportBuildRun colored settings world

end Host

end DocSamples
