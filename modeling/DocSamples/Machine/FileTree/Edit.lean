import DocSamples.Machine.FileTree

/-!
Contract: changes to a tree of files, each asked for by a path.

Owns:
- writing, appending and emptying files;
- making directories and links, copying, removing, and marking programs;
- laying out a tree from a list of files.

A change that is refused leaves the tree as it was.
-/

namespace DocSamples

namespace FileTree

/-- A path without the slashes at its end; a path of nothing else is the root. -/
def withoutTrailingSlashes (path : Text) : Text :=
  match (path.reverse.dropWhile (· == '/')).reverse with
  | [] => path.take 1
  | kept => kept

/-- Give a file new content, which keeps its mark as a program, or make it. -/
def setContent (tree : FileTree) (key : Key) (content : Bytes) : FileTree :=
  match tree.node? key with
  | some (.file _ executable) => tree.set key (.file content executable)
  | none => tree.set key (.file content false)
  | some _ => tree

/-- Add to the end of a file; what is written to a place without a file is lost. -/
def append (tree : FileTree) (key : Key) (content : Bytes) : FileTree :=
  match tree.node? key with
  | some (.file earlier executable) => tree.set key (.file (earlier ++ content) executable)
  | _ => tree

/-- Open a path for writing: the place of the file, which is made if it is not
there, and emptied unless `keep` says otherwise. -/
def openForWriting (tree : FileTree) (workingDirectory : Key) (path : Text) (keep : Bool) :
    Except SystemError (Key × FileTree) :=
  match tree.locate true workingDirectory path with
  | .error cause => .error cause
  | .ok ⟨_, some .directory⟩ => .error .isDirectory
  | .ok ⟨key, some (.file ..)⟩ => .ok (key, if keep then tree else tree.setContent key [])
  | .ok ⟨key, some _⟩ => .ok (key, tree)
  | .ok ⟨key, none⟩ => .ok (key, tree.setContent key [])

/-- Make a directory where nothing stands. -/
def makeDirectory (tree : FileTree) (workingDirectory : Key) (path : Text) :
    Except SystemError FileTree :=
  match tree.locate false workingDirectory (withoutTrailingSlashes path) with
  | .error cause => .error cause
  | .ok ⟨_, some _⟩ => .error .alreadyExists
  | .ok ⟨key, none⟩ => .ok (tree.set key .directory)

def leadingPaths (path : Text) : List Text :=
  let spelled := Path.parts (withoutTrailingSlashes path)
  (List.range spelled.length).map fun count => joinWith '/' (spelled.take (count + 1))

/-- Make a directory and those above it, wherever nothing stands. -/
def makeDirectories (tree : FileTree) (workingDirectory : Key) (path : Text) :
    Except SystemError FileTree :=
  (leadingPaths path).foldlM
    (fun tree leading =>
      match tree.locate true workingDirectory leading with
      | .error cause => if leading.isEmpty then .ok tree else .error cause
      | .ok ⟨key, none⟩ => .ok (tree.set key .directory)
      | .ok ⟨_, some .directory⟩ => .ok tree
      | .ok ⟨_, some _⟩ => .error (if leading == path then .alreadyExists else .notDirectory))
    tree

/-- Put a link at a path where nothing stands. -/
def makeLink (tree : FileTree) (workingDirectory : Key) (target path : Text) :
    Except SystemError FileTree :=
  match tree.locate false workingDirectory path with
  | .error cause => .error cause
  | .ok ⟨_, some _⟩ => .error .alreadyExists
  | .ok ⟨key, none⟩ => .ok (tree.set key (.link target))

/-- Remove what a path leads to, and all below it; links are not followed. -/
def removeAt (tree : FileTree) (workingDirectory : Key) (path : Text) :
    Except SystemError FileTree :=
  match tree.locate false workingDirectory path with
  | .error cause => .error cause
  | .ok ⟨_, none⟩ => .error .notFound
  | .ok ⟨key, some _⟩ => .ok (tree.remove key)

/-- Mark a file as a program or not; other things stay as they are. -/
def setExecutable (tree : FileTree) (workingDirectory : Key) (path : Text) (executable : Bool) :
    Except SystemError FileTree :=
  match tree.locate true workingDirectory path with
  | .error cause => .error cause
  | .ok ⟨_, none⟩ => .error .notFound
  | .ok ⟨key, some (.file content _)⟩ => .ok (tree.set key (.file content executable))
  | .ok ⟨_, some _⟩ => .ok tree

inductive Layout where
  | file (content : Bytes) (executable : Bool)
  | directory
  | link (target : Text)
deriving DecidableEq

def parentPath (path : Text) : Text :=
  joinWith '/' (Path.parts (withoutTrailingSlashes path)).dropLast

def makeParent (tree : FileTree) (workingDirectory : Key) (path : Text) :
    Except SystemError FileTree :=
  if (parentPath path).isEmpty then .ok tree
  else tree.makeDirectories workingDirectory (parentPath path)

def place (tree : FileTree) (workingDirectory : Key) (path : Text) (layout : Layout) :
    Except SystemError FileTree :=
  match tree.makeParent workingDirectory path with
  | .error cause => .error cause
  | .ok tree =>
    match layout with
    | .directory => tree.makeDirectories workingDirectory path
    | .link target => tree.makeLink workingDirectory target path
    | .file content executable =>
      match tree.openForWriting workingDirectory path false with
      | .error cause => .error cause
      | .ok (key, opened) => (opened.append key content).setExecutable workingDirectory path executable

end FileTree

end DocSamples
