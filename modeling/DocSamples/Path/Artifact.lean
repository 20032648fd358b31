import DocSamples.Path.Basic
import DocSamples.System.Error

/-!
Contract: where the program built from a source file lies.

Owns:
- the stem of a name, and paths without their extension;
- absolute paths;
- the artifact of a source path.

A name has an extension if it has a dot after its first character; the stem is
what stands before the last dot.
-/

namespace DocSamples.Path

/-- What stands before the last dot of a name, if the name has an extension. -/
def stem? (name : Text) : Option Text :=
  match (name.reverse.dropWhile (· != '.')).reverse with
  | [] => none
  | upToDot => if upToDot.length == 1 then none else some upToDot.dropLast

/-- A path without the extension of its last component, if that is a name.  What
trails after the name goes with it.

A stem that is a single dot would leave a path that stays where it is.  Unless
something trailed after the name, its second dot stays too, which makes it the
component that goes up. -/
def withoutExtension (path : Text) : Text :=
  let ⟨front, name, trailing⟩ := cut path
  if !isName name then
    path
  else
    match stem? name with
    | none => front ++ name
    | some stem =>
      if stem == here && trailing.isEmpty then front ++ up else front ++ stem

/-- What an absolute path starts from: two slashes if the path starts with
exactly two, one if it starts with another number of them, and else the working
directory. -/
def absoluteBase (workingDirectory : Text) : Text → Text
  | '/' :: '/' :: '/' :: _ => ['/']
  | '/' :: '/' :: _ => ['/', '/']
  | '/' :: _ => ['/']
  | _ => workingDirectory

/-- A path made absolute: its components joined to its base, with a slash at the
end if the path has one. -/
def absolute (workingDirectory path : Text) : Text :=
  let joined := (components path).foldl join (absoluteBase workingDirectory path)
  if endsInSlash path && !endsInSlash joined then joined ++ ['/'] else joined

/-- Why the empty path has no absolute form. -/
def emptyPathError : SystemError :=
  .other "cannot make an empty path absolute".toList

def artifact (workingDirectory source : Text) : Except SystemError Text :=
  let built := withoutExtension source
  if built.isEmpty then .error emptyPathError else .ok (absolute workingDirectory built)

end DocSamples.Path
