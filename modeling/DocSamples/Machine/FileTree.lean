import DocSamples.Path.Basic
import DocSamples.System.Host
import DocSamples.Text.Utf8

/-!
Contract: a tree of files and the paths that lead into it.

Owns:
- what can stand at a place, and looking up, setting and removing it;
- following a spelled path to a place, through links, as far as the system's
  limits on links, names and paths allow.

A place is known by the names from the root down.  The root is a directory and
always there.
-/

namespace DocSamples

/-- A program that the machine can run by itself. -/
inductive Utility where
  | shell
  | cat
  | cp
  | rm
  | mkdir
  | ln
  | chmod
deriving DecidableEq, Repr

/-- What stands at a place. -/
inductive Node where
  | directory
  | file (content : Bytes) (executable : Bool)
  | link (target : Text)
  /-- Takes whatever is written and gives nothing. -/
  | sink
  /-- A regular file whose content cannot be read. -/
  | faulty
  | utility (program : Utility)
deriving DecidableEq

def Node.kind : Node → FileKind
  | .directory => .directory
  | .link _ => .link
  | .sink => .special
  | .file .. | .faulty | .utility _ => .file

/-- The names that lead from the root to a place. -/
abbrev Key := List Text

structure FileTree where
  nodes : List (Key × Node) := []
deriving DecidableEq

namespace FileTree

def node? (tree : FileTree) (key : Key) : Option Node :=
  if key.isEmpty then some .directory else tree.nodes.lookup key

def set (tree : FileTree) (key : Key) (node : Node) : FileTree :=
  { nodes := (key, node) :: tree.nodes.filter (·.1 != key) }

def remove (tree : FileTree) (key : Key) : FileTree :=
  { nodes := tree.nodes.filter fun entry => !key.isPrefixOf entry.1 }

/-- The name of a place within a directory, if it lies directly in it. -/
def nameIn? (directory key : Key) : Option Text :=
  if key.dropLast == directory then key.getLast? else none

def entries (tree : FileTree) (directory : Key) : List DirectoryEntry :=
  tree.nodes.filterMap fun (key, node) =>
    (nameIn? directory key).map fun name => ⟨name, node.kind⟩

/-- Where a path leads. -/
structure Place where
  key : Key
  /-- What stands there; nothing may, if the directory it would be in is there. -/
  node? : Option Node
deriving DecidableEq

def linkLimit : Nat := 40

def nameLimit : Nat := 255

def pathLimit : Nat := 4095

/-- Follow the parts of a path from a directory.  A link at the very end is
followed only if `throughLast` asks for it or something comes after it;
`throughLink` goes on from there, with the parts of its target first. -/
def followParts (tree : FileTree) (throughLast : Bool)
    (throughLink : Key → List Text → Except SystemError Place) (directory : Key) :
    List Text → Except SystemError Place
  | [] => .ok ⟨directory, some .directory⟩
  | part :: rest =>
    if !Path.isComponent part then
      tree.followParts throughLast throughLink directory rest
    else if part == Path.up then
      tree.followParts throughLast throughLink directory.dropLast rest
    else if nameLimit < (Utf8.encode part).length then
      .error .nameTooLong
    else
      let key := directory ++ [part]
      match tree.node? key with
      | none => if rest.isEmpty then .ok ⟨key, none⟩ else .error .notFound
      | some .directory => tree.followParts throughLast throughLink key rest
      | some (.link target) =>
        if rest.isEmpty && !throughLast then
          .ok ⟨key, some (.link target)⟩
        else
          throughLink (if Path.isAbsolute target then [] else directory)
            (Path.parts target ++ rest)
      | some node => if rest.isEmpty then .ok ⟨key, some node⟩ else .error .notDirectory

/-- Follow the parts of a path from a directory through at most so many links. -/
def follow (tree : FileTree) (throughLast : Bool) :
    (links : Nat) → Key → List Text → Except SystemError Place
  | 0 => tree.followParts throughLast fun _ _ => .error .tooManyLinks
  | fewer + 1 => tree.followParts throughLast (tree.follow throughLast fewer)

def nulInPath : SystemError :=
  .other "file name contained an unexpected NUL byte".toList

/-- Where a path leads that starts, if it is relative, from a given directory. -/
def locate (tree : FileTree) (throughLast : Bool) (workingDirectory : Key) (path : Text) :
    Except SystemError Place :=
  if path.contains '\x00' then .error nulInPath
  else if path.isEmpty then .error .notFound
  else if pathLimit < (Utf8.encode path).length then .error .nameTooLong
  else
    tree.follow throughLast linkLimit (if Path.isAbsolute path then [] else workingDirectory)
      (Path.parts path)

def nodeAt (tree : FileTree) (throughLast : Bool) (workingDirectory : Key) (path : Text) :
    Except SystemError Node :=
  match tree.locate throughLast workingDirectory path with
  | .error cause => .error cause
  | .ok ⟨_, none⟩ => .error .notFound
  | .ok ⟨_, some node⟩ => .ok node

def listAt (tree : FileTree) (workingDirectory : Key) (path : Text) :
    Except SystemError (List DirectoryEntry) :=
  match tree.locate true workingDirectory path with
  | .error cause => .error cause
  | .ok ⟨_, none⟩ => .error .notFound
  | .ok ⟨key, some .directory⟩ => .ok (tree.entries key)
  | .ok ⟨_, some _⟩ => .error .notDirectory

def contentOf : Node → Except SystemError Bytes
  | .directory => .error .isDirectory
  | .file content _ => .ok content
  | .link _ => .error .tooManyLinks
  | .sink => .ok []
  | .faulty => .error .inputOutput
  | .utility _ => .ok []

def readAt (tree : FileTree) (workingDirectory : Key) (path : Text) : Except SystemError Bytes :=
  match tree.nodeAt true workingDirectory path with
  | .error cause => .error cause
  | .ok node => contentOf node

/-- The path of the directory at a place, as long as there is one. -/
def directoryPath (tree : FileTree) (key : Key) : Except SystemError Text :=
  match tree.node? key with
  | some .directory => .ok ('/' :: joinWith '/' key)
  | _ => .error .notFound

/-- Looking at the files of a tree, with paths that start from a fixed directory. -/
def files (workingDirectory : Key) : Files FileTree where
  stat path tree := (tree.nodeAt true workingDirectory path).map Node.kind
  lstat path tree := (tree.nodeAt false workingDirectory path).map Node.kind
  list path tree := tree.listAt workingDirectory path
  read path tree := tree.readAt workingDirectory path
  workingDirectory tree := tree.directoryPath workingDirectory

end FileTree

end DocSamples
