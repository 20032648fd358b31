import DocSamples.Document.Stream
import DocSamples.Path.Basic
import DocSamples.System.Host
import DocSamples.Text.Utf8

/-!
Contract: the documents below a directory.

Owns:
- looking at one entry: a regular file, or a link that leads to one, whose name
  is that of a documentation file is read;
- the walk, which goes through the entries of a directory in the byte order of
  their names and into each directory where it comes upon it.

A directory is listed when the walk reaches it, and a file is looked at and read
when the walk reaches it.  Links to directories are not entered, save that the
walk may start at one.  A directory that cannot be listed is logged and passed
over.  Hidden entries count like all others.
-/

namespace DocSamples

structure WalkEntry where
  path : Text
  /-- Its name, or the whole path where that ends in no name. -/
  name : Text
  isDirectory : Bool
deriving DecidableEq

namespace WalkEntry

def ofRoot (root : Text) (isDirectory : Bool) : WalkEntry :=
  ⟨root, (Path.fileName? root).getD root, isDirectory⟩

def child (parent : WalkEntry) (entry : DirectoryEntry) : WalkEntry :=
  ⟨Path.join parent.path entry.name, entry.name, entry.kind == .directory⟩

end WalkEntry

/-- The byte order of names. -/
def nameLE (left right : Text) : Bool :=
  decide (Utf8.encode left ≤ Utf8.encode right)

def sortEntries (entries : List DirectoryEntry) : List DirectoryEntry :=
  entries.mergeSort fun left right => nameLE left.name right.name

namespace Host

variable {World : Type} (host : Host World)

/-- Read a file as a document under the path by which it was reached. -/
def readDocument (path : Text) (world : World) : Fetched :=
  match host.read path world with
  | .error cause => .error (.unreadable path cause)
  | .ok bytes => .ok ⟨path, Utf8.decode bytes⟩

/-- Look at an entry, and read it if it is a document. -/
def visitEntry (entry : WalkEntry) (world : World) : Option Fetched × World :=
  if host.isFile entry.path world && isDocumentName entry.name then
    (some (host.readDocument entry.path world),
      host.log .trace ("Reading ".toList ++ entry.path) world)
  else
    (none, world)

def logSkipped (path : Text) (cause : SystemError) (world : World) : World :=
  host.log .warn
    ("Skipping walk entry: ".toList ++ path ++ ": IO error for operation on ".toList ++ path ++
      ": ".toList ++ cause.message)
    world

/-- A look that only logs that an entry is passed over. -/
def skip (path : Text) (cause : SystemError) (rest : Documents World) : Documents World :=
  .cons (fun world => (none, host.logSkipped path cause world)) rest

/-- Walk an entry and all below it, and then go on as `rest`.  `depth` bounds how
many directories deep the walk goes. -/
def walk : (depth : Nat) → WalkEntry → (rest : Documents World) → Documents World
  | 0, entry, rest => .cons (host.visitEntry entry) rest
  | depth + 1, entry, rest =>
    .look (host.visitEntry entry) fun world =>
      if entry.isDirectory then
        match host.list entry.path world with
        | .error cause => host.skip entry.path cause rest
        | .ok entries =>
          (sortEntries entries).foldr (fun child later => walk depth (entry.child child) later) rest
      else
        rest

/-- No path has more directories than this: each takes two characters at least,
and the system takes no path of more than 4095 bytes. -/
def maximalDepth : Nat := 4096

/-- Whether the root of a walk is a directory or a link to one. -/
def rootIsDirectory (root : Text) (world : World) : Except SystemError Bool :=
  match host.lstat root world with
  | .error cause => .error cause
  | .ok .link =>
    match host.stat root world with
    | .error cause => .error cause
    | .ok kind => .ok (kind == .directory)
  | .ok kind => .ok (kind == .directory)

/-- The walk of a root, which is looked at when the first document is asked for. -/
def walkRoot (root : Text) : Documents World :=
  .look
    (fun world =>
      match host.rootIsDirectory root world with
      | .error cause => (none, host.logSkipped root cause world)
      | .ok _ => (none, world))
    fun world =>
      match host.rootIsDirectory root world with
      | .error _ => .done
      | .ok isDirectory => host.walk maximalDepth (.ofRoot root isDirectory) .done

/-- The spelling of a root that stands for standard input, which holds no
documents. -/
def isStandardInput (root : Text) : Bool :=
  !Path.isAbsolute root && (Path.parts root).head? == some ['-'] &&
    Path.components root == [['-']]

/-- The documents below a root, or the root itself if it is one; an error if
nothing stands there. -/
def documentsBelow (root : Text) (world : World) : Except SourceError (Documents World) :=
  if host.pathExists root world then
    .ok (if isStandardInput root then .done else host.walkRoot root)
  else
    .error (.missingRoot root)

end Host

end DocSamples
