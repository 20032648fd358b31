import DocSamples.Text.Basic

/-!
Contract: paths as they are spelled.

Owns:
- the parts of a path between slashes and its components;
- joining a name to a path;
- the last component, what stands before it and what trails after it.

A part that is empty or a single dot names nothing of its own: repeated slashes
count as one, and a dot stays where it is.  Two dots are a component, but not a
name.
-/

namespace DocSamples.Path

/-- The part of a path that stays where it is. -/
def here : Text := ['.']

/-- The component that goes up one directory. -/
def up : Text := ['.', '.']

/-- What stands between the slashes of a path. -/
def parts (path : Text) : List Text :=
  splitAt '/' path

def isComponent (part : Text) : Bool :=
  !part.isEmpty && part != here

/-- The components of a path, without the root. -/
def components (path : Text) : List Text :=
  (parts path).filter isComponent

def isAbsolute (path : Text) : Bool :=
  path.head? == some '/'

def endsInSlash (path : Text) : Bool :=
  path.getLast? == some '/'

/-- A path followed by a name, with a slash between them unless the path ends in
one. -/
def join (path name : Text) : Text :=
  if endsInSlash path then path ++ name else path ++ '/' :: name

/-- A path cut around its last component. -/
structure Cut where
  front : Text
  name : Text
  trailing : Text
deriving DecidableEq

/-- How much of a path, read from its end, trails after its last component. -/
def trailingFromEnd : Text → Nat
  | '/' :: path => trailingFromEnd path + 1
  | '.' :: '/' :: path => trailingFromEnd path + 2
  | _ => 0

/-- Cut a path around its last part that does not trail. -/
def cut (path : Text) : Cut :=
  let reversed := path.reverse
  let trailing := trailingFromEnd reversed
  let upTo := reversed.drop trailing
  { front := (upTo.dropWhile (· != '/')).reverse
    name := (upTo.takeWhile (· != '/')).reverse
    trailing := (reversed.take trailing).reverse }

def isName (part : Text) : Bool :=
  isComponent part && part != up

/-- The name at the end of a path, if its last component is a name. -/
def fileName? (path : Text) : Option Text :=
  let name := (cut path).name
  if isName name then some name else none

end DocSamples.Path
