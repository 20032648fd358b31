import DocSamples.Check.Documents
import DocSamples.CommandLine.Argument
import DocSamples.CommandLine.Report
import DocSamples.System.ExitCode

/-!
Contract: the command line that checks the samples of a source.

Owns:
- its arguments: at most one selector, before or after the terminator;
- the exit code that each end of a check stands for;
- running it.

Arguments are looked at in order.  The first that asks for help or for the version,
or makes no sense, decides.
-/

namespace DocSamples

def CheckError.exitCode : CheckError → ExitCode
  | .sampleFailed .. => .sampleFailed
  | .toolFailed .. | .sourceFailed _ => .toolError

namespace CommandLine.Check

/-- What the arguments ask for, given the selector that has been found and whether
the terminator has. -/
def requestFrom (selector? : Option Text) (terminated : Bool) :
    List Text → Request (Option Text)
  | [] => .run selector?
  | argument :: rest =>
    match if terminated then .plain else Argument.ofText argument with
    | .terminator => requestFrom selector? true rest
    | .long name none => (commonLong? name).getD .misuse
    | .long _ (some _) => .misuse
    | .letters first _ => (commonLetter? first).getD .misuse
    | .plain =>
      if selector?.isSome then .misuse else requestFrom (some argument) terminated rest

def request (arguments : List Text) : Request (Option Text) :=
  requestFrom none false arguments

def usage : Text :=
  "Usage: doccheck [SELECTOR]\n".toList

def helpMessage : Text :=
  "Check the samples in documentation files\n\n".toList ++ usage ++
    "\nSELECTOR is a directory or a file, or a git reference followed by a colon.\n".toList

end CommandLine.Check

namespace Host

variable {World : Type} (host : Host World)

def reportCheck (colored : Bool) (selector : Selector) (world : World) : ExitCode × World :=
  match host.checkSource {} selector world with
  | (.ok _, after) => (.success, after)
  | (.error error, after) =>
    (error.exitCode, host.printError (CommandLine.errorLine colored error.message) after)

def runCheck (colored : Bool) (arguments : List Text) (world : World) : Int × World :=
  match CommandLine.Check.request arguments with
  | .version => (ExitCode.success.number, host.print CommandLine.versionLine world)
  | .help => (ExitCode.success.number, host.print CommandLine.Check.helpMessage world)
  | .misuse =>
    (ExitCode.toolError.number,
      host.printError (CommandLine.misuseMessage CommandLine.Check.usage) world)
  | .run selector? =>
    let (code, after) := host.reportCheck colored (.parse selector?) world
    (code.number, after)

end Host

end DocSamples
