import DocSamples.Machine.Session

/-!
Contract: the small programs that a machine has for working on files.

Owns:
- showing, copying, removing, linking and marking files, and making directories;
- their options, their complaints and their exit codes.

Does not own: the shell (`Machine/Shell`).  Each program does all of its operands,
complains about those that fail, and ends with exit code one if any did.
-/

namespace DocSamples

namespace Utility

structure Invocation where
  options : List Char
  operands : List Text
deriving DecidableEq

/-- Tell options from operands: options may stand anywhere before `--`. -/
def invocation : List Text → Invocation
  | [] => ⟨[], []⟩
  | ['-', '-'] :: rest => ⟨[], rest⟩
  | ('-' :: option :: more) :: rest =>
    { invocation rest with options := option :: more ++ (invocation rest).options }
  | operand :: rest => { invocation rest with operands := operand :: (invocation rest).operands }

def Invocation.has (invocation : Invocation) (option : Char) : Bool :=
  invocation.options.contains option

def complaint (name : Text) (wording : Text) : RawText :=
  RawText.ofText (name ++ ": ".toList ++ wording ++ ['\n'])

/-- A name between single quotes, as complaints show it. -/
def shown (path : Text) : Text :=
  ['\''] ++ path ++ ['\'']

/-- Do one thing for each operand; the exit code is one if any failed. -/
def forEach (name : Text) (act : Text → Session → Except Text Session) :
    List Text → Session → Nat × Session
  | [], session => (0, session)
  | operand :: operands, session =>
    match act operand session with
    | .ok after => forEach name act operands after
    | .error wording => (1, (forEach name act operands (session.complain (complaint name wording))).2)

/-- End after a complaint. -/
def fail (name wording : Text) (session : Session) : Nat × Session :=
  (1, session.complain (complaint name wording))

/-- Write files one after another; a dash or no operand at all means the input. -/
def concatenate (name : Text) (arguments : List Text) (session : Session) : Nat × Session :=
  let operands := (invocation arguments).operands
  forEach name
    (fun path session =>
      if path == ['-'] then
        .ok { session.print (RawText.ofBytes session.input) with input := [] }
      else
        match session.tree.readAt session.workingDirectory path with
        | .error cause => .error (path ++ ": ".toList ++ cause.wording)
        | .ok bytes => .ok (session.print (RawText.ofBytes bytes)))
    (if operands.isEmpty then [['-']] else operands) session

def within (directory path : Text) : Text :=
  Path.join directory ((Path.components path).getLast?.getD [])

/-- Where something goes that is put at a path: into it if it is a directory. -/
def destination (session : Session) (path source : Text) : Text :=
  match session.tree.nodeAt true session.workingDirectory path with
  | .ok .directory => within path source
  | _ => path

def copyFile (target source : Text) (session : Session) : Except Text Session :=
  let into := destination session target source
  let refused := fun (cause : SystemError) =>
    "cannot create regular file ".toList ++ shown into ++ ": ".toList ++ cause.wording
  match session.tree.locate true session.workingDirectory source with
  | .error cause => .error ("cannot stat ".toList ++ shown source ++ ": ".toList ++ cause.wording)
  | .ok ⟨_, none⟩ =>
    .error ("cannot stat ".toList ++ shown source ++ ": ".toList ++ SystemError.notFound.wording)
  | .ok ⟨_, some .directory⟩ =>
    .error ("-r not specified; omitting directory ".toList ++ shown source)
  | .ok ⟨sourceKey, some node⟩ =>
    match FileTree.contentOf node, session.tree.locate true session.workingDirectory into with
    | .error cause, _ =>
      .error ("error reading ".toList ++ shown source ++ ": ".toList ++ cause.wording)
    | .ok _, .error cause => .error (refused cause)
    | .ok content, .ok ⟨key, there?⟩ =>
      if key == sourceKey then
        .error (shown source ++ " and ".toList ++ shown into ++ " are the same file".toList)
      else
        match there? with
        | some .directory => .error (refused .isDirectory)
        | some _ => .ok { session with tree := session.tree.setContent key content }
        | none =>
          let executable := match node with
            | .file _ executable => executable
            | _ => false
          .ok { session with tree := session.tree.set key (.file content executable) }

def copyFiles (name : Text) (arguments : List Text) (session : Session) : Nat × Session :=
  match (invocation arguments).operands.reverse with
  | [] => fail name "missing file operand".toList session
  | [only] => fail name ("missing destination file operand after ".toList ++ shown only) session
  | target :: sources => forEach name (copyFile target) sources.reverse session

/-- Remove files, and directories if the options allow it. -/
def removeFiles (name : Text) (arguments : List Text) (session : Session) : Nat × Session :=
  let given := invocation arguments
  let deep := given.has 'r' || given.has 'R'
  forEach name
    (fun path session =>
      let refused := fun (cause : SystemError) =>
        "cannot remove ".toList ++ shown path ++ ": ".toList ++ cause.wording
      match session.tree.nodeAt false session.workingDirectory path with
      | .error cause =>
        if given.has 'f' && (cause == .notFound || cause == .notDirectory) then .ok session
        else .error (refused cause)
      | .ok .directory =>
        if deep then
          match session.tree.removeAt session.workingDirectory path with
          | .error cause => .error (refused cause)
          | .ok tree => .ok { session with tree := tree }
        else .error (refused .isDirectory)
      | .ok _ =>
        match session.tree.removeAt session.workingDirectory path with
        | .error cause => .error (refused cause)
        | .ok tree => .ok { session with tree := tree })
    given.operands session

def makeDirectories (name : Text) (arguments : List Text) (session : Session) : Nat × Session :=
  let given := invocation arguments
  forEach name
    (fun path session =>
      match
        if given.has 'p' then session.tree.makeDirectories session.workingDirectory path
        else session.tree.makeDirectory session.workingDirectory path
      with
      | .ok tree => .ok { session with tree := tree }
      | .error cause =>
        .error ("cannot create directory ".toList ++ shown path ++ ": ".toList ++ cause.wording))
    given.operands session

/-- Put a link, or a copy if no symbolic link is asked for, at a path. -/
def linkFile (symbolic force : Bool) (path target : Text) (session : Session) :
    Except Text Session :=
  let into := destination session path target
  let refused := fun (cause : SystemError) =>
    "failed to create ".toList ++ (if symbolic then "symbolic".toList else "hard".toList) ++
      " link ".toList ++ shown into ++ ": ".toList ++ cause.wording
  let cleared :=
    if force then (session.tree.removeAt session.workingDirectory into).toOption.getD session.tree
    else session.tree
  if symbolic then
    match cleared.makeLink session.workingDirectory target into with
    | .error cause => .error (refused cause)
    | .ok tree => .ok { session with tree := tree }
  else
    match session.tree.nodeAt false session.workingDirectory target,
      cleared.locate false session.workingDirectory into with
    | .error cause, _ =>
      .error ("failed to access ".toList ++ shown target ++ ": ".toList ++ cause.wording)
    | .ok _, .error cause => .error (refused cause)
    | .ok _, .ok ⟨_, some _⟩ => .error (refused .alreadyExists)
    | .ok node, .ok ⟨key, none⟩ => .ok { session with tree := cleared.set key node }

def makeLinks (name : Text) (arguments : List Text) (session : Session) : Nat × Session :=
  let given := invocation arguments
  match given.operands.reverse with
  | [] => fail name "missing file operand".toList session
  | [target] => forEach name (linkFile (given.has 's') (given.has 'f') Path.here) [target] session
  | path :: targets =>
    forEach name (linkFile (given.has 's') (given.has 'f') path) targets.reverse session

/-- Whether a file is a program after a mode was set, given whether it was one
before; nothing if the mode is none. -/
def executableAfter? (mode : Text) (before : Bool) : Option Bool :=
  if !mode.isEmpty && mode.all (fun digit => '0' ≤ digit && digit ≤ '7') then
    some (mode.any fun digit => digit.toNat % 2 == 1)
  else
    match mode.dropWhile (fun who => ['u', 'g', 'o', 'a'].contains who) with
    | '+' :: marks => some (before || marks.contains 'x')
    | '-' :: marks => some (before && !marks.contains 'x')
    | '=' :: marks => some (marks.contains 'x')
    | _ => none

def markFile (mode path : Text) (session : Session) : Except Text Session :=
  match session.tree.locate true session.workingDirectory path with
  | .error cause =>
    .error ("cannot access ".toList ++ shown path ++ ": ".toList ++ cause.wording)
  | .ok ⟨_, none⟩ =>
    .error ("cannot access ".toList ++ shown path ++ ": ".toList ++ SystemError.notFound.wording)
  | .ok ⟨key, some (.file content before)⟩ =>
    let executable := (executableAfter? mode before).getD before
    .ok { session with tree := session.tree.set key (.file content executable) }
  | .ok ⟨_, some _⟩ => .ok session

def markFiles (name : Text) (arguments : List Text) (session : Session) : Nat × Session :=
  let operands := arguments.filter (· != ['-', '-'])
  match operands with
  | [] => fail name "missing operand".toList session
  | mode :: paths =>
    if (executableAfter? mode false).isSome then forEach name (markFile mode) paths session
    else fail name ("invalid mode: ".toList ++ shown mode) session

end Utility

end DocSamples
