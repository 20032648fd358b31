import DocSamples.CommandLine.BuildRun
import DocSamples.CommandLine.Check
import DocSamples.Machine.Archive

/-!
Contract: the program around the two command lines.

Owns:
- reading the archive on standard input and writing what a command line wrote.

The first argument is `doccheck` or `neon-run`, the others are those of that command
line.  It runs on a machine of its own, into which the archive has been unpacked, so
nothing outside is looked at or changed.
-/

namespace DocSamples.Main

partial def readAll (stream : IO.FS.Stream) (read : ByteArray) : IO ByteArray := do
  let more ← stream.read 65536
  if more.isEmpty then return read else readAll stream (read ++ more)

def commandNamed? (name : String) : Option (Bool → List Text → Machine → Int × Machine) :=
  if name == "doccheck" then some Machine.host.runCheck
  else if name == "neon-run" then some Machine.host.runBuildRun
  else none

def start (archive : Bytes) : Machine :=
  (Machine.fresh "/work".toList "/work/path".toList).unpack archive

/-- Run a command line and write what it wrote. -/
def run (command : Bool → List Text → Machine → Int × Machine) (arguments : List String) :
    IO UInt32 := do
  let archive ← readAll (← IO.getStdin) .empty
  let colored := (← IO.getEnv "CLICOLOR_FORCE").any (· != "0")
  let (code, after) := command colored (arguments.map String.toList) (start archive.toList)
  (← IO.getStdout).write ⟨after.output.toArray⟩
  (← IO.getStderr).write ⟨after.errorOutput.toArray⟩
  return code.toNat.toUInt32

end DocSamples.Main

def main : List String → IO UInt32
  | [] => do
    IO.eprintln "usage: doccheck | neon-run, with an archive of files as input"
    return 2
  | name :: arguments => do
    match DocSamples.Main.commandNamed? name with
    | some command => DocSamples.Main.run command arguments
    | none =>
      IO.eprintln ("unknown command line: " ++ name)
      return 2
