import DocSamples.Text.Basic

/-!
Contract: why the operating system refused a request.

Owns:
- the causes, each with the number the system gives it;
- their wording.
-/

namespace DocSamples

inductive SystemError where
  | notPermitted
  | notFound
  | interrupted
  | inputOutput
  | tooManyArguments
  | execFormat
  | tryAgain
  | outOfMemory
  | permissionDenied
  | notDirectory
  | isDirectory
  | alreadyExists
  | invalidArgument
  | tooManyFiles
  | fileBusy
  | noSpace
  | readOnly
  | brokenPipe
  | nameTooLong
  | directoryNotEmpty
  | tooManyLinks
  /-- A cause that the system has no number for. -/
  | other (wording : Text)
deriving DecidableEq

namespace SystemError

/-- The system's number and name of a cause. -/
def numbered? : SystemError → Option (Nat × String)
  | .notPermitted => some (1, "Operation not permitted")
  | .notFound => some (2, "No such file or directory")
  | .interrupted => some (4, "Interrupted system call")
  | .inputOutput => some (5, "Input/output error")
  | .tooManyArguments => some (7, "Argument list too long")
  | .execFormat => some (8, "Exec format error")
  | .tryAgain => some (11, "Resource temporarily unavailable")
  | .outOfMemory => some (12, "Cannot allocate memory")
  | .permissionDenied => some (13, "Permission denied")
  | .alreadyExists => some (17, "File exists")
  | .notDirectory => some (20, "Not a directory")
  | .isDirectory => some (21, "Is a directory")
  | .invalidArgument => some (22, "Invalid argument")
  | .tooManyFiles => some (24, "Too many open files")
  | .fileBusy => some (26, "Text file busy")
  | .noSpace => some (28, "No space left on device")
  | .readOnly => some (30, "Read-only file system")
  | .brokenPipe => some (32, "Broken pipe")
  | .nameTooLong => some (36, "File name too long")
  | .directoryNotEmpty => some (39, "Directory not empty")
  | .tooManyLinks => some (40, "Too many levels of symbolic links")
  | .other _ => none

def numberedCauses : List SystemError :=
  [.notPermitted, .notFound, .interrupted, .inputOutput, .tooManyArguments, .execFormat, .tryAgain,
    .outOfMemory, .permissionDenied, .alreadyExists, .notDirectory, .isDirectory, .invalidArgument,
    .tooManyFiles, .fileBusy, .noSpace, .readOnly, .brokenPipe, .nameTooLong, .directoryNotEmpty,
    .tooManyLinks]

def ofNumber? (number : Nat) : Option SystemError :=
  numberedCauses.find? fun cause => cause.numbered?.any (·.1 == number)

/-- The name of a cause, without its number. -/
def wording : SystemError → Text
  | .other wording => wording
  | cause => (cause.numbered?.elim "" (·.2)).toList

/-- The message of a cause: its name, followed by its number if it has one. -/
def message (cause : SystemError) : Text :=
  match cause.numbered? with
  | none => cause.wording
  | some (number, _) =>
    cause.wording ++ " (os error ".toList ++ decimal number ++ ")".toList

end SystemError

end DocSamples
