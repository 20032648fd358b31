import DocSamples.Machine.Session

/-!
Contract: which program the system runs for a command.

Owns:
- loading a file as a program: one of the machine's own, or a script whose first
  line names the program that reads it;
- looking a name up in the search directory.

A name with a slash is a path.  Any other is looked for in the search directory
only.
-/

namespace DocSamples

structure LoadedProgram where
  utility : Utility
  name : Text
  arguments : List Text
deriving DecidableEq

def isLineBlank (character : Char) : Bool :=
  character == ' ' || character == '\t'

/-- The program, and the argument for it if there is one, that the first line of a
script names. -/
def interpreterLine? (content : RawText) : Option (RawText × Option RawText) :=
  match content with
  | '#' :: '!' :: rest =>
    let line := (rest.takeWhile (· != '\n')).dropWhile isLineBlank
    let program := line.takeWhile (!isLineBlank ·)
    let argument :=
      (((line.dropWhile (!isLineBlank ·)).dropWhile isLineBlank).reverse.dropWhile
        isLineBlank).reverse
    if program.isEmpty then none
    else some (program, if argument.isEmpty then none else some argument)
  | _ => none

namespace Session

/-- How many scripts may stand behind each other. -/
def interpreterLimit : Nat := 5

def load (session : Session) : (limit : Nat) → (path : Text) → (arguments : List Text) →
    Except SystemError LoadedProgram
  | 0, _, _ => .error .tooManyLinks
  | limit + 1, path, arguments =>
    match session.tree.nodeAt true session.workingDirectory path with
    | .error cause => .error cause
    | .ok (.utility utility) => .ok ⟨utility, path, arguments⟩
    | .ok (.file content true) =>
      match interpreterLine? (RawText.ofBytes content) with
      | none => .error .execFormat
      | some (program, argument?) =>
        session.load limit (RawText.toText program)
          ((argument?.map RawText.toText).toList ++ path :: arguments)
    | .ok _ => .error .permissionDenied

def programPath (session : Session) (name : Text) : Text :=
  if name.contains '/' then name else Path.join session.searchPath name

/-- Why a program that is looked for cannot be had: a search directory that is
missing, or is none, holds no program. -/
def searchFailure (name : Text) (cause : SystemError) : SystemError :=
  if name.contains '/' then cause
  else if cause == .notDirectory then .notFound
  else cause

def nulInArguments : SystemError :=
  .other "nul byte found in provided data".toList

def loadCommand (session : Session) (command : Command) : Except SystemError LoadedProgram :=
  if (command.program :: command.arguments).any (·.contains '\x00') then .error nulInArguments
  else if command.program.isEmpty then .error .notFound
  else
    (session.load interpreterLimit (session.programPath command.program) command.arguments).mapError
      (searchFailure command.program)

end Session

end DocSamples
