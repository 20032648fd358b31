import DocSamples.Machine.Program

/-!
Contract: a machine that keeps its files and runs its programs within itself.

Owns:
- the state of a machine and its answers to what the library asks of a system;
- the processes it has started.

A machine touches nothing outside: the same state and the same request always give
the same answer, so a whole check can be run, and looked at, as a value.

A process whose input is a pipe runs as soon as its pipe is written to, or when it
is waited for.  It takes what it reads, the pipe holds a fixed amount beyond that,
and what does not fit any more finds the pipe broken.
-/

namespace DocSamples

inductive Process where
  | loaded (program : LoadedProgram)
  | ended (status : Status)
deriving DecidableEq

structure Machine where
  tree : FileTree
  workingDirectory : Key
  searchPath : Text
  input : Bytes := []
  output : Bytes := []
  errorOutput : Bytes := []
  /-- The records of the log, the latest first. -/
  records : List (LogLevel × Text) := []
  processes : List Process := []
deriving DecidableEq

namespace Machine

/-- The session of a program that runs with a given input and without anything
written yet. -/
def session (machine : Machine) (input : Bytes) : Session :=
  { tree := machine.tree
    workingDirectory := machine.workingDirectory
    searchPath := machine.searchPath
    input
    streams := [[], []]
    output := .stream 0
    errorOutput := .stream 1 }

def outputsOf (session : Session) : Bytes × Bytes :=
  (session.streams.getD 0 [], session.streams.getD 1 [])

def write (machine : Machine) (outputs : Bytes × Bytes) : Machine :=
  { machine with
    output := machine.output ++ outputs.1
    errorOutput := machine.errorOutput ++ outputs.2 }

/-- How much a pipe holds that nobody reads. -/
def pipeCapacity : Nat := 65536

/-- Run a process on bytes in its pipe: its end, how many bytes it left in the pipe,
and the machine afterwards. -/
def runProcess (machine : Machine) (program : LoadedProgram) (bytes : Bytes) :
    Status × Nat × Machine :=
  let (status, ended) := program.run LoadedProgram.depthLimit (machine.session bytes)
  (status, ended.input.length, { machine with tree := ended.tree }.write (outputsOf ended))

def setEnded (machine : Machine) (process : ProcessId) (status : Status) : Machine :=
  { machine with processes := machine.processes.set process (.ended status) }

def spawn (command : Command) (machine : Machine) : Except SystemError ProcessId × Machine :=
  match (machine.session []).loadCommand command with
  | .error cause => (.error cause, machine)
  | .ok program =>
    (.ok machine.processes.length,
      { machine with processes := machine.processes ++ [.loaded program] })

def writePipe (process : ProcessId) (bytes : Bytes) (machine : Machine) :
    Except SystemError Nat × Machine :=
  match machine.processes[process]? with
  | some (.loaded program) =>
    let (status, left, after) := machine.runProcess program bytes
    (.ok (bytes.length - (left - pipeCapacity)), after.setEnded process status)
  | _ => (.error .brokenPipe, machine)

def wait (process : ProcessId) (machine : Machine) : Except SystemError Status × Machine :=
  match machine.processes[process]? with
  | some (.loaded program) =>
    let (status, _, after) := machine.runProcess program []
    (.ok status, after.setEnded process status)
  | some (.ended status) => (.ok status, machine)
  | none => (.error .notFound, machine)

def kill (process : ProcessId) (machine : Machine) : Machine :=
  match machine.processes[process]? with
  | some (.loaded _) => machine.setEnded process .killed
  | _ => machine

def runCommand (command : Command) (machine : Machine) : Except SystemError Status × Machine :=
  let session := machine.session machine.input
  match session.loadCommand command with
  | .error cause => (.error cause, machine)
  | .ok program =>
    let (status, ended) := program.run LoadedProgram.depthLimit session
    (.ok status,
      { machine with tree := ended.tree, input := ended.input }.write (outputsOf ended))

def capture (command : Command) (machine : Machine) : Except SystemError Output × Machine :=
  let session := machine.session []
  match session.loadCommand command with
  | .error cause => (.error cause, machine)
  | .ok program =>
    let (status, ended) := program.run LoadedProgram.depthLimit session
    let outputs := outputsOf ended
    (.ok ⟨status, outputs.1, outputs.2⟩, { machine with tree := ended.tree })

def look {α : Type} (request : Files FileTree → Text → FileTree → α) (path : Text)
    (machine : Machine) : α :=
  request (FileTree.files machine.workingDirectory) path machine.tree

def host : Host Machine where
  stat := look Files.stat
  lstat := look Files.lstat
  list := look Files.list
  read := look Files.read
  workingDirectory machine := machine.tree.directoryPath machine.workingDirectory
  spawn
  write := writePipe
  closeInput _ machine := machine
  kill
  wait
  run := runCommand
  capture
  print text machine := machine.write (Utf8.encode text, [])
  printError text machine := machine.write ([], Utf8.encode text)
  log level text machine := { machine with records := (level, text) :: machine.records }

/-- What stands on every machine: the shell, the small programs, and three files
with a behaviour of their own. -/
def systemNodes : List (String × Node) :=
  [("/bin/sh", .utility .shell), ("/bin/cat", .utility .cat), ("/bin/cp", .utility .cp),
    ("/bin/rm", .utility .rm), ("/bin/mkdir", .utility .mkdir), ("/bin/ln", .utility .ln),
    ("/bin/chmod", .utility .chmod), ("/dev/null", .sink), ("/proc/self/mem", .faulty)]

/-- The place that a path in normal form names. -/
def keyOf (path : Text) : Key :=
  Path.components path

def withParents (tree : FileTree) (key : Key) : FileTree :=
  (List.range key.length).foldl
    (fun tree count =>
      if (tree.node? (key.take count)).isSome then tree
      else tree.set (key.take count) .directory)
    tree

/-- A machine with nothing but what stands on every machine and an empty working
directory. -/
def fresh (workingDirectory searchPath : Text) : Machine :=
  let key := keyOf workingDirectory
  let system := systemNodes.foldl
    (fun (tree : FileTree) (path, node) =>
      (withParents tree (keyOf path.toList)).set (keyOf path.toList) node)
    {}
  { tree := (withParents system key).set key .directory
    workingDirectory := key
    searchPath }

/-- Put something at a path; what cannot be put there is left out. -/
def place (machine : Machine) (path : Text) (layout : FileTree.Layout) : Machine :=
  match machine.tree.place machine.workingDirectory path layout with
  | .ok tree => { machine with tree := tree }
  | .error _ => machine

end Machine

end DocSamples
