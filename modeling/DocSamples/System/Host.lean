import DocSamples.System.Error
import DocSamples.Tool.Status

/-!
Contract: what the library asks of the system it runs on.

Owns:
- the requests: looking at files, running processes, printing and logging;
- commands, and what a finished command gives back.

Does not own: any system.  A host over a type of worlds says how each request is
answered and which world it leaves behind, so a statement about every host is one
about every behaviour of files and processes.  A request that a signal interrupts is
made again, and only its last answer counts.
-/

namespace DocSamples

/-- What stands at a path. -/
inductive FileKind where
  | file
  | directory
  | link
  | special
deriving DecidableEq, Repr

structure DirectoryEntry where
  name : Text
  kind : FileKind
deriving DecidableEq

/-- Looking at files.  Paths are texts as they are spelled. -/
structure Files (World : Type) where
  /-- What a path leads to, links followed. -/
  stat : Text → World → Except SystemError FileKind
  lstat : Text → World → Except SystemError FileKind
  /-- The entries of a directory, in no particular order. -/
  list : Text → World → Except SystemError (List DirectoryEntry)
  read : Text → World → Except SystemError Bytes
  /-- The absolute path of the directory that relative paths start from; it may be gone. -/
  workingDirectory : World → Except SystemError Text

structure Command where
  program : Text
  arguments : List Text
deriving DecidableEq

/-- What a command gives back whose output was captured. -/
structure Output where
  status : Status
  stdout : Bytes
  stderr : Bytes
deriving DecidableEq

abbrev ProcessId := Nat

structure Processes (World : Type) where
  spawn : Command → World → Except SystemError ProcessId × World
  /-- Write to a process's pipe; the answer says how many bytes went in. -/
  write : ProcessId → Bytes → World → Except SystemError Nat × World
  /-- Close the pipe: after what it holds, the process sees the end of its input. -/
  closeInput : ProcessId → World → World
  kill : ProcessId → World → World
  wait : ProcessId → World → Except SystemError Status × World
  /-- Run a command to its end on the streams of this program. -/
  run : Command → World → Except SystemError Status × World
  /-- Run a command to its end without input and capture what it writes. -/
  capture : Command → World → Except SystemError Output × World

/-- How much a log record matters, in decreasing order. -/
inductive LogLevel where
  | error
  | warn
  | info
  | debug
  | trace
deriving DecidableEq, Repr

structure Console (World : Type) where
  print : Text → World → World
  printError : Text → World → World
  log : LogLevel → Text → World → World

/-- All that the library asks of the system it runs on. -/
structure Host (World : Type) extends Files World, Processes World, Console World

namespace Files

variable {World : Type} (files : Files World)

def pathExists (path : Text) (world : World) : Bool :=
  (files.stat path world).isOk

def isFile (path : Text) (world : World) : Bool :=
  match files.stat path world with
  | .ok .file => true
  | _ => false

end Files

end DocSamples
