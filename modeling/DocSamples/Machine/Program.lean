import DocSamples.Machine.Shell.Evaluator
import DocSamples.Machine.Shell.Reader
import DocSamples.Machine.Utility

/-!
Contract: running the programs of a machine to their end.

Owns:
- running a script, given by its text;
- running any program that has been loaded, and whatever programs it runs.

Programs may run each other only so deep; one that would go deeper is killed.
-/

namespace DocSamples

namespace Shell

/-- Run what could be read of a script, and complain about the rest. -/
def runScript (launch : Launcher) (script : Script) : Action Unit := do
  runAll launch script.commands
  match script.fault? with
  | none => pure ()
  | some line =>
    modify fun state => { state with line := line }
    complain "Syntax error".toList
    throw (.exit 2)

def State.start (session : Session) (name : RawText) (arguments : List RawText) : State :=
  { session
    values :=
      [("PATH".toList, RawText.ofText session.searchPath),
        ("PWD".toList, RawText.ofText ('/' :: joinWith '/' session.workingDirectory))]
    name
    arguments
    status := 0
    line := 1 }

def runText (launch : Launcher) (text name : RawText) (arguments : List RawText)
    (session : Session) : Status × Session :=
  match runScript launch (Script.ofText text) (State.start session name arguments) with
  | (.ok (), after) => (.exited after.status, session.resume after.session)
  | (.error (.exit code), after) => (.exited code, session.resume after.session)
  | (.error .killed, after) => (.killed, session.resume after.session)

/-- Run the shell itself: a script by its path, a text that is given, or what comes
in as input. -/
def runShell (launch : Launcher) (name : Text) (arguments : List Text) (session : Session) :
    Status × Session :=
  let rest := arguments.dropWhile fun argument =>
    argument.head? == some '-' && !argument.contains 'c' && argument != ['-'] &&
      argument != ['-', '-']
  match rest with
  | ['-', 'c'] :: text :: more =>
    runText launch (RawText.ofText text) (RawText.ofText (more.head?.getD name))
      (more.tail.map RawText.ofText) session
  | [] | [['-']] | [['-', '-']] =>
    runText launch (RawText.ofBytes session.input) (RawText.ofText name) []
      { session with input := [] }
  | path :: more =>
    match session.tree.readAt session.workingDirectory path with
    | .ok content =>
      runText launch (RawText.ofBytes content) (RawText.ofText path) (more.map RawText.ofText)
        session
    | .error _ =>
      (.exited 2,
        session.complain
          (RawText.ofText (name ++ ": 0: cannot open ".toList ++ path ++ ": No such file\n".toList)))

end Shell

namespace LoadedProgram

/-- Run a utility whose end is always an exit code. -/
def conclude (outcome : Nat × Session) : Status × Session :=
  (.exited outcome.1, outcome.2)

/-- Run a program to its end.  `depth` bounds how deep programs run each other. -/
def run : (depth : Nat) → LoadedProgram → Session → Status × Session
  | 0, _, session => (.killed, session)
  | depth + 1, program, session =>
    match program.utility with
    | .shell =>
      Shell.runShell
        (fun command session =>
          match session.loadCommand command with
          | .error cause => (.error cause, session)
          | .ok launched =>
            let (status, after) := run depth launched session
            (.ok status, after))
        program.name program.arguments session
    | .cat => conclude (Utility.concatenate program.name program.arguments session)
    | .cp => conclude (Utility.copyFiles program.name program.arguments session)
    | .rm => conclude (Utility.removeFiles program.name program.arguments session)
    | .mkdir => conclude (Utility.makeDirectories program.name program.arguments session)
    | .ln => conclude (Utility.makeLinks program.name program.arguments session)
    | .chmod => conclude (Utility.markFiles program.name program.arguments session)

/-- How deep programs may run each other. -/
def depthLimit : Nat := 256

end LoadedProgram

end DocSamples
