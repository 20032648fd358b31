import DocSamples.Machine.Shell.Arithmetic
import DocSamples.Machine.Shell.Builtin

/-!
Contract: what scripts do.

Owns:
- expanding words;
- running commands, with their redirections, in the order in which they stand.

Does not own: how other programs are run, which is given as a launcher.  The
recursion follows the script; only loops are bounded by a number of rounds, and a
script that needs more is killed.
-/

namespace DocSamples.Shell

/-- A way to run other programs: how the program ended, or why it was not run. -/
abbrev Launcher :=
  DocSamples.Command → Session → Except SystemError Status × Session

def roundLimit : Nat := 10000000

def killedStatus : Nat := 137

/-- Run something in a copy of the shell, of which only what programs share and the
status are kept. -/
def inSubshell (body : Action Unit) : Action Unit := fun state =>
  match body state with
  | (.ok (), after) =>
    (.ok (), { state with session := state.session.resume after.session, status := after.status })
  | (.error (.exit code), after) =>
    (.ok (), { state with session := state.session.resume after.session, status := code })
  | (.error .killed, after) =>
    (.error .killed, { state with session := state.session.resume after.session })

def outputOf (body : Action Unit) : Action RawText := fun state =>
  let (output, answer, session) := state.session.collecting fun session =>
    let (answer, after) := inSubshell body { state with session := session }
    ((answer, after.status), after.session)
  let after := { state with session := session, status := answer.2 }
  match answer.1 with
  | .ok () => (.ok output, after)
  | .error stop => (.error stop, after)

/-- The output of commands as it is put into a word: without NULs and without line
feeds at its end. -/
def substituted (output : RawText) : RawText :=
  ((output.filter (· != '\x00')).reverse.dropWhile (· == '\n')).reverse

def repeatWhile (whileTrue : Bool) (condition body : Action Unit) (status : Nat) :
    (rounds : Nat) → Action Unit
  | 0 => throw .killed
  | rounds + 1 => do
    condition
    if ((← get).status == 0) == whileTrue then
      body
      repeatWhile whileTrue condition body (← get).status rounds
    else
      finish status

def allArguments (joined quoted : Bool) : Action (List Atom) := do
  let state ← get
  if joined && quoted then
    let separator := state.separators.take 1
    return atomsOf true (separator.intercalate state.arguments)
  else if state.arguments.isEmpty then
    return if quoted then [.vanish] else []
  else
    return joinWith .border (state.arguments.map (atomsOf quoted))

def valueOf (name : RawText) : Action (Option RawText) := do
  let state ← get
  if name == ['@'] || name == ['*'] then
    return if state.arguments.isEmpty then none else some (joinWith ' ' state.arguments)
  else
    return state.parameter? name

def openingFailure (creating : Bool) (path : RawText) (cause : SystemError) : RawText :=
  let reason := match cause, creating with
    | .notFound, true | .notDirectory, true => "Directory nonexistent".toList
    | .notFound, false | .notDirectory, false => "No such file".toList
    | _, _ => cause.wording
  (if creating then "cannot create ".toList else "cannot open ".toList) ++ path ++
    ": ".toList ++ RawText.ofText reason

/-- Let one output go to a file. -/
def openOutput (errorOutput keep : Bool) (path : RawText) : Action Bool := do
  let state ← get
  let session := state.session
  match session.tree.openForWriting session.workingDirectory (RawText.toText path) keep with
  | .error cause =>
    complain (openingFailure true path cause)
    return false
  | .ok (key, tree) =>
    let opened := { session with tree := tree }
    set { state with
      session :=
        if errorOutput then { opened with errorOutput := .file key }
        else { opened with output := .file key } }
    return true

def openInput (path : RawText) : Action Bool := do
  let state ← get
  let session := state.session
  match session.tree.readAt session.workingDirectory (RawText.toText path) with
  | .error cause =>
    complain (openingFailure false path cause)
    return false
  | .ok content =>
    set { state with session := { session with input := content } }
    return true

/-- Let one output go where the other goes. -/
def joinOutputs (errorOutput : Bool) : Action Bool := do
  modify fun state =>
    { state with
      session :=
        if errorOutput then { state.session with errorOutput := state.session.output }
        else { state.session with output := state.session.errorOutput } }
  return true

def changesInput : List Redirect → Bool
  | [] => false
  | .fromFile _ :: _ => true
  | _ :: rest => changesInput rest

def namesAssigned : List Assignment → List RawText
  | [] => []
  | .assign name _ :: rest => name :: namesAssigned rest

/-- Do something and let the outputs, and the input if asked for, be as before. -/
def restoring (withInput : Bool) (body : Action Unit) : Action Unit := fun state =>
  let (answer, after) := body state
  let session := { after.session with
    output := state.session.output
    errorOutput := state.session.errorOutput
    input := if withInput then state.session.input else after.session.input }
  (answer, { after with session := session })

/-- Run another program and note how it ended. -/
def launchProgram (launch : Launcher) (program : RawText) (arguments : List RawText) :
    Action Unit := do
  let state ← get
  let command : DocSamples.Command :=
    ⟨RawText.toText program, arguments.map RawText.toText⟩
  let conclude := fun (outcome : Except SystemError Status) (session : Session) => do
    set { state with session := state.session.resume session }
    match outcome with
    | .ok (.exited code) => finish code.toNat
    | .ok .killed => finish killedStatus
    | .error .notFound | .error .notDirectory =>
      complain (program ++ ": not found".toList)
      finish 127
    | .error cause =>
      complain (program ++ ": ".toList ++ RawText.ofText cause.wording)
      finish 126
  match launch command state.session with
  | (.error .execFormat, session) =>
    let script := session.programPath command.program
    let (outcome, after) := launch ⟨"/bin/sh".toList, script :: command.arguments⟩ session
    conclude outcome after
  | (outcome, session) => conclude outcome session

def runWords (launch : Launcher) : List RawText → Action Unit
  | [] => pure ()
  | name :: arguments =>
    match builtin? name with
    | some command => command arguments
    | none => launchProgram launch name arguments

mutual

def expand (launch : Launcher) : List Piece → Action (List Atom)
  | [] => pure []
  | piece :: rest => do
    let atoms ← expandPiece launch piece
    return atoms ++ (← expand launch rest)

def expandPiece (launch : Launcher) : Piece → Action (List Atom)
  | .literal text quoted =>
    pure ((if quoted then [.hold] else []) ++ text.map fun character => .letter ⟨character, quoted⟩)
  | .parameter name use quoted => do
    match ← valueOf name with
    | none => expandUse launch name none quoted use
    | some value => expandUse launch name (some value) quoted use
  | .substitution script quoted => do
    let output ← outputOf (runAll launch script)
    return atomsOf quoted (substituted output)
  | .arithmetic expression quoted => do
    let text := textOf (← expand launch expression)
    let state ← get
    let lookup := fun (name : RawText) =>
      ((state.value? name).bind integer?).getD 0
    match evaluateArithmetic lookup text with
    | some value => return atomsOf quoted (toString value).toList
    | none =>
      complain ("arithmetic expression: expecting primary: \"".toList ++ text ++ ['"'])
      throw (.exit 2)

def expandUse (launch : Launcher) (name : RawText) (value? : Option RawText) (quoted : Bool) :
    Use → Action (List Atom)
  | .value =>
    if name == ['@'] || name == ['*'] then allArguments (name == ['*']) quoted
    else pure (atomsOf quoted (value?.getD []))
  | .length => pure (atomsOf quoted (decimal (value?.getD []).length))
  | .trim fromEnd longest pattern => do
    let letters := lettersOf (← expand launch pattern)
    return atomsOf quoted (trimPattern fromEnd longest (patternOf letters) (value?.getD []))
  | .otherwise fallback emptyToo word => do
    let present := value?.any fun value => !(emptyToo && value.isEmpty)
    match fallback, present with
    | .alternative, true | .substitute, false => expand launch word
    | .alternative, false => pure (atomsOf quoted [])
    | .assign, false =>
      let value := textOf (← expand launch word)
      modify (·.assign name value)
      return atomsOf quoted value
    | _, true => pure (atomsOf quoted (value?.getD []))

/-- Expand words into fields. -/
def expandWords (launch : Launcher) : List (List Piece) → Action (List RawText)
  | [] => pure []
  | word :: rest => do
    let atoms ← expand launch word
    let fields := fieldsOf (← get).separators atoms
    return fields ++ (← expandWords launch rest)

/-- Apply redirections, up to one that fails. -/
def redirectAll (launch : Launcher) : List Redirect → Action Bool
  | [] => pure true
  | redirect :: rest => do
    if ← redirectOne launch redirect then redirectAll launch rest else pure false

def redirectOne (launch : Launcher) : Redirect → Action Bool
  | .toFile errorOutput keep target => do
    openOutput errorOutput keep (textOf (← expand launch target))
  | .fromFile target => do openInput (textOf (← expand launch target))
  | .join errorOutput => joinOutputs errorOutput

def assignAll (launch : Launcher) : List Assignment → Action Unit
  | [] => pure ()
  | assignment :: rest => do
    assignOne launch assignment
    assignAll launch rest

def assignOne (launch : Launcher) : Assignment → Action Unit
  | .assign name value => do
    let text := textOf (← expand launch value)
    modify (·.assign name text)

def runAll (launch : Launcher) : List Command → Action Unit
  | [] => pure ()
  | command :: rest => do
    run launch command
    runAll launch rest

def run (launch : Launcher) : Command → Action Unit
  | .simple line assignments words redirects => do
    modify fun state => { state with line := line }
    let fields ← expandWords launch words
    if fields.isEmpty then
      finish 0
      restoring (changesInput redirects) do
        if ← redirectAll launch redirects then pure () else finish 2
      assignAll launch assignments
    else
      let before := (← get).values
      assignAll launch assignments
      restoring (changesInput redirects) do
        if ← redirectAll launch redirects then runWords launch fields else finish 2
      if !assignments.isEmpty then
        let names := namesAssigned assignments
        modify fun state =>
          { state with
            values := before.filter (names.contains ·.1) ++
              state.values.filter (!names.contains ·.1) }
  | .pipeline first second => do
    let output ← outputOf (run launch first)
    let input := (← get).session.input
    modify fun state =>
      { state with session := { state.session with input := RawText.toBytes output } }
    inSubshell (run launch second)
    modify fun state => { state with session := { state.session with input := input } }
  | .negated command => do
    run launch command
    finish (if (← get).status == 0 then 1 else 0)
  | .both first second => do
    run launch first
    if (← get).status == 0 then run launch second
  | .either first second => do
    run launch first
    if (← get).status != 0 then run launch second
  | .group body => runAll launch body
  | .subshell body => inSubshell (runAll launch body)
  | .redirected command redirects =>
    restoring (changesInput redirects) do
      if ← redirectAll launch redirects then run launch command else finish 2
  | .branch condition body otherwise => do
    runAll launch condition
    if (← get).status == 0 then
      finish 0
      runAll launch body
    else
      finish 0
      runAll launch otherwise
  | .loop whileTrue condition body =>
    repeatWhile whileTrue (runAll launch condition) (runAll launch body) 0 roundLimit
  | .each name words body => do
    let values ← expandWords launch words
    finish 0
    values.forM fun value => do
      modify (·.assign name value)
      runAll launch body
  | .choose word arms => do
    let text := textOf (← expand launch word)
    finish 0
    let _ ← chooseArm launch text arms

/-- Run the first arm that has a pattern which matches; the answer says whether
there is one. -/
def chooseArm (launch : Launcher) (text : RawText) : List Arm → Action Bool
  | [] => pure false
  | arm :: rest => do
    if ← tryArm launch text arm then pure true else chooseArm launch text rest

def tryArm (launch : Launcher) (text : RawText) : Arm → Action Bool
  | .arm patterns body => do
    if ← matchesAny launch text patterns then
      runAll launch body
      pure true
    else
      pure false

def matchesAny (launch : Launcher) (text : RawText) : List (List Piece) → Action Bool
  | [] => pure false
  | pattern :: rest => do
    let letters := lettersOf (← expand launch pattern)
    if matchesPattern (patternOf letters) text then pure true else matchesAny launch text rest

end

end DocSamples.Shell
