import DocSamples.System.Host
import DocSamples.Text.Utf8
import DocSamples.Tool.Error

/-!
Contract: running a tool on a text.

Owns:
- writing a whole byte string to a process;
- launching a tool, feeding it a text and waiting for its end.

The pipe is closed before the wait, so a tool that reads to the end of its input
sees that end.  A tool that stops reading early has done nothing wrong: how it
ends is what counts.  Any other failure to write kills the tool, which is waited
for before the failure is reported.
-/

namespace DocSamples

/-- Why a pipe that takes nothing is a failure. -/
def stalledWrite : SystemError :=
  .other "failed to write whole buffer".toList

namespace Processes

variable {World : Type} (processes : Processes World)

/-- Write all bytes, as many at a time as the pipe takes; the answer is the
failure that ended the writing, if one did. -/
def writeAll (process : ProcessId) (bytes : Bytes) (world : World) :
    Option SystemError × World :=
  match bytes with
  | [] => (none, world)
  | byte :: rest =>
    match processes.write process (byte :: rest) world with
    | (.error cause, after) => (some cause, after)
    | (.ok 0, after) => (some stalledWrite, after)
    | (.ok (more + 1), after) => writeAll process (rest.drop more) after
termination_by bytes.length
decreasing_by
  simp only [List.length_drop, List.length_cons]
  omega

end Processes

namespace Host

variable {World : Type} (host : Host World)

def awaitTool (tool : Text) (process : ProcessId) (world : World) :
    Except ToolError Status × World :=
  match host.wait process world with
  | (.error cause, after) => (.error ⟨.waiting, tool, cause⟩, after)
  | (.ok status, after) => (.ok status, after)

def abandon (process : ProcessId) (world : World) : World :=
  (host.wait process (host.kill process world)).2

/-- Run a tool on a text and learn how it ended. -/
def feed (command : Command) (text : Text) (world : World) : Except ToolError Status × World :=
  match host.spawn command world with
  | (.error cause, after) => (.error ⟨.launch, command.program, cause⟩, after)
  | (.ok process, after) =>
    match host.writeAll process (Utf8.encode text) after with
    | (none, fed) => host.awaitTool command.program process (host.closeInput process fed)
    | (some .brokenPipe, fed) =>
      host.awaitTool command.program process
        (host.closeInput process
          (host.log .debug (command.program ++ " closed stdin early".toList) fed))
    | (some cause, fed) =>
      (.error ⟨.input, command.program, cause⟩, host.closeInput process (host.abandon process fed))

end Host

end DocSamples
