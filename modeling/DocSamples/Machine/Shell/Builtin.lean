import DocSamples.Machine.Shell.Format
import DocSamples.Machine.Shell.State

/-!
Contract: the commands that the shell runs by itself.

Owns:
- what each of them does to the shell, and its exit code;
- which names they have.

A command that is misused complains and ends with exit code two; those that change
the shell itself end the whole script with it.
-/

namespace DocSamples.Shell

/-- Complain about the use of a command. -/
def complainOf (command wording : RawText) : Action Unit :=
  complain (command ++ ": ".toList ++ wording)

/-- The number that an argument spells, as far as exit codes and counts go. -/
def countOf? (argument : RawText) : Option Nat :=
  if argument.isEmpty then none
  else
    match integer? argument with
    | some (.ofNat number) => if number < 2147483648 then some number else none
    | _ => none

def refuseNumber {α : Type} (command argument : RawText) : Action α := do
  complainOf command ("Illegal number: ".toList ++ argument)
  throw (.exit 2)

def exitWith : List RawText → Action Unit
  | [] => do throw (.exit (← get).status)
  | argument :: _ =>
    match countOf? argument with
    | some number => throw (.exit (number % 256))
    | none => refuseNumber "exit".toList argument

def echo (arguments : List RawText) : Action Unit := do
  print (echoed arguments)
  finish 0

def printFormatted : List RawText → Action Unit
  | [] => do
    complainOf "printf".toList "usage: printf format [arg ...]".toList
    finish 2
  | format :: arguments => do
    let (text, fine) := formatted format arguments
    print text
    unless fine do complainOf "printf".toList "expected numeric value".toList
    finish (if fine then 0 else 1)

/-- Take the next line off the input: its characters and whether a line feed ended
it.  Unless the reading is raw, a backslash protects the character after it, also a
line feed, which is then dropped. -/
def takeLine (raw : Bool) : Bytes → List Letter × Bool × Bytes
  | [] => ([], false, [])
  | byte :: rest =>
    if byte == 10 then ([], true, rest)
    else if byte == 0 then takeLine raw rest
    else if byte == 92 && !raw then
      match rest with
      | [] => ([], false, [])
      | next :: more =>
        let (letters, ended, left) := takeLine raw more
        if next == 10 then (letters, ended, left)
        else (⟨Char.ofNat next.toNat, true⟩ :: letters, ended, left)
    else
      let (letters, ended, left) := takeLine raw rest
      (⟨Char.ofNat byte.toNat, false⟩ :: letters, ended, left)

/-- Whether a letter is a separator that only separates. -/
def Letter.isBlankIn (letter : Letter) (separators : RawText) : Bool :=
  !letter.quoted && isBlankSeparator letter.character && separators.contains letter.character

/-- Letters without the blank separators at their end. -/
def withoutTrailingBlanks (separators : RawText) (letters : List Letter) : List Letter :=
  (letters.reverse.dropWhile (·.isBlankIn separators)).reverse

/-- Share the letters of a line among variables; the last one gets what is left. -/
def shareLine (separators : RawText) : List RawText → List Letter → List (RawText × RawText)
  | [], _ => []
  | [name], letters =>
    [(name, (withoutTrailingBlanks separators
      (letters.dropWhile (·.isBlankIn separators))).map Letter.character)]
  | name :: names, letters =>
    let separates := fun (letter : Letter) =>
      !letter.quoted && separators.contains letter.character
    let start := letters.dropWhile (·.isBlankIn separators)
    let field := start.takeWhile (!separates ·)
    let after := (start.drop field.length).dropWhile (·.isBlankIn separators)
    let next := match after with
      | letter :: rest => if separates letter then rest else after
      | [] => []
    (name, field.map Letter.character) :: shareLine separators names next

def readLine (arguments : List RawText) : Action Unit := do
  let raw := arguments.head? == some ['-', 'r']
  let names := if raw then arguments.tail else arguments
  let state ← get
  let (letters, ended, left) := takeLine raw state.session.input
  set { state with session := { state.session with input := left } }
  (shareLine state.separators names letters).forM fun (name, value) =>
    modify (·.assign name value)
  finish (if ended then 0 else 1)

def signalNames : List (String × Nat) :=
  [("HUP", 1), ("INT", 2), ("QUIT", 3), ("ILL", 4), ("TRAP", 5), ("ABRT", 6), ("BUS", 7),
    ("FPE", 8), ("KILL", 9), ("USR1", 10), ("SEGV", 11), ("USR2", 12), ("PIPE", 13), ("ALRM", 14),
    ("TERM", 15), ("STKFLT", 16), ("CHLD", 17), ("CONT", 18), ("URG", 23), ("XCPU", 24),
    ("XFSZ", 25), ("VTALRM", 26), ("PROF", 27), ("WINCH", 28), ("POLL", 29), ("PWR", 30),
    ("SYS", 31)]

def signalNumber? (text : RawText) : Option Nat :=
  if !text.isEmpty && text.all Char.isDigit then
    if numberOf text < 65 then some (numberOf text) else none
  else (signalNames.find? (·.1.toList == text.map Char.toUpper)).map (·.2)

/-- The signals that do nothing to a process that does not wait for them; zero only
asks whether the process is there. -/
def harmlessSignals : List Nat := [0, 17, 18, 23, 28]

def signalSelf (signal : Nat) (targets : List RawText) : Action Unit := do
  if targets.isEmpty then
    complainOf "kill".toList "Usage: kill [-s sigspec | -signum | -sigspec] [pid | job]...".toList
    finish 2
  else if !targets.all (· == decimal processNumber) then
    complainOf "kill".toList "No such process".toList
    finish 1
  else if harmlessSignals.contains signal then
    finish 0
  else
    throw .killed

def sendSignal : List RawText → Action Unit
  | ['-', 's'] :: signal :: targets => send signal targets
  | ('-' :: option) :: targets =>
    match signalNumber? option, option with
    | some number, _ => signalSelf number targets
    | none, 's' :: signal => send signal targets
    | none, _ => do
      complainOf "kill".toList ("Illegal option -".toList ++ option.take 1)
      finish 2
  | targets => signalSelf 15 targets
where
  /-- Send a signal that is named apart from the option that announces it. -/
  send (signal : RawText) (targets : List RawText) : Action Unit :=
    match signalNumber? signal with
    | some number => signalSelf number targets
    | none => do
      complainOf "kill".toList ("invalid signal number or name: ".toList ++ signal)
      finish 2

def testFile (state : State) (question : Char) (path : RawText) : Option Bool :=
  let look := fun (throughLast : Bool) =>
    state.session.tree.nodeAt throughLast state.session.workingDirectory (RawText.toText path)
  match question with
  | 'e' => some (look true).isOk
  | 'f' => some (match (look true).map Node.kind with | .ok .file => true | _ => false)
  | 'd' => some (match (look true).map Node.kind with | .ok .directory => true | _ => false)
  | 'h' | 'L' => some (match (look false).map Node.kind with | .ok .link => true | _ => false)
  | 'r' | 'w' => some (look true).isOk
  | 'x' => some (match look true with
      | .ok (.file _ executable) => executable
      | .ok .directory | .ok (.utility _) => true
      | _ => false)
  | 's' => some (match look true with
      | .ok (.file content _) => !content.isEmpty
      | .ok .directory | .ok (.utility _) => true
      | _ => false)
  | _ => none

def compareTexts (operator left right : RawText) : Option Bool :=
  let numbers := fun (relation : Int → Int → Bool) =>
    match integer? left, integer? right with
    | some leftNumber, some rightNumber => some (relation leftNumber rightNumber)
    | _, _ => none
  match String.ofList operator with
  | "=" | "==" => some (left == right)
  | "!=" => some (left != right)
  | "-eq" => numbers (· == ·)
  | "-ne" => numbers (· != ·)
  | "-lt" => numbers (decide <| · < ·)
  | "-le" => numbers (decide <| · ≤ ·)
  | "-gt" => numbers (decide <| · > ·)
  | "-ge" => numbers (decide <| · ≥ ·)
  | "-a" => some (!left.isEmpty && !right.isEmpty)
  | "-o" => some (!left.isEmpty || !right.isEmpty)
  | _ => none

def testCondition (state : State) : (fuel : Nat) → List RawText → Option Bool
  | 0, _ => none
  | fuel + 1, condition =>
    match condition with
    | [] => some false
    | [text] => some (!text.isEmpty)
    | [['!'], text] => some text.isEmpty
    | [['-', 'n'], text] => some (!text.isEmpty)
    | [['-', 'z'], text] => some text.isEmpty
    | [['-', question], path] => testFile state question path
    | [['!'], first, second] => (testCondition state fuel [first, second]).map (!·)
    | [left, operator, right] => compareTexts operator left right
    | ['!'] :: rest => (testCondition state fuel rest).map (!·)
    | _ =>
      let cut := fun (joint : RawText) =>
        let before := condition.takeWhile (· != joint)
        (before, condition.drop (before.length + 1))
      let combine := fun (joint : RawText) (apply : Bool → Bool → Bool) =>
        match testCondition state fuel (cut joint).1, testCondition state fuel (cut joint).2 with
        | some left, some right => some (apply left right)
        | _, _ => none
      if condition.contains ['-', 'o'] then combine ['-', 'o'] or
      else if condition.contains ['-', 'a'] then combine ['-', 'a'] and
      else none

def test (arguments : List RawText) : Action Unit := do
  match testCondition (← get) (arguments.length + 1) arguments with
  | some true => finish 0
  | some false => finish 1
  | none =>
    complainOf "test".toList "unexpected operator".toList
    finish 2

/-- Say whether the condition before a closing bracket holds. -/
def bracketTest (arguments : List RawText) : Action Unit := do
  if arguments.getLast? == some [']'] then
    test arguments.dropLast
  else
    complainOf ['['] "missing ]".toList
    finish 2

/-- Drop arguments of the script. -/
def shift (arguments : List RawText) : Action Unit := do
  match arguments.head?.elim (some 1) countOf? with
  | none => refuseNumber "shift".toList (arguments.head?.getD [])
  | some count =>
    if (← get).arguments.length < count then
      complainOf "shift".toList "can't shift that many".toList
      throw (.exit 2)
    else
      modify fun state => { state with arguments := state.arguments.drop count }
      finish 0

def setArguments (arguments : List RawText) : Action Unit := do
  match arguments with
  | ['-', '-'] :: rest => modify fun state => { state with arguments := rest }
  | [] => pure ()
  | first :: _ =>
    unless first.head? == some '-' || first.head? == some '+' do
      modify fun state => { state with arguments := arguments }
  finish 0

def exportVariables (arguments : List RawText) : Action Unit := do
  arguments.forM fun argument => do
    let name := argument.takeWhile (· != '=')
    if name.length < argument.length then
      modify (·.assign name (argument.drop (name.length + 1)))
  finish 0

def unset (arguments : List RawText) : Action Unit := do
  arguments.forM fun argument => modify (·.unset argument)
  finish 0

def changeDirectory (arguments : List RawText) : Action Unit := do
  let state ← get
  let path := (arguments.filter (· != ['-', '-'])).head?.getD ['/']
  match state.session.tree.locate true state.session.workingDirectory (RawText.toText path) with
  | .ok ⟨key, some .directory⟩ =>
    set { state with session := { state.session with workingDirectory := key } }
    finish 0
  | _ =>
    complainOf "cd".toList ("can't cd to ".toList ++ path)
    finish 2

def builtin? (name : RawText) : Option (List RawText → Action Unit) :=
  match String.ofList name with
  | ":" | "true" => some fun _ => finish 0
  | "false" => some fun _ => finish 1
  | "echo" => some echo
  | "printf" => some printFormatted
  | "read" => some readLine
  | "exit" => some exitWith
  | "kill" => some sendSignal
  | "test" => some test
  | "[" => some bracketTest
  | "shift" => some shift
  | "set" => some setArguments
  | "export" | "readonly" | "local" => some exportVariables
  | "unset" => some unset
  | "cd" => some changeDirectory
  | _ => none

end DocSamples.Shell
