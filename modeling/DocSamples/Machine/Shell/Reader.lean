import DocSamples.Machine.Shell.Script

/-!
Contract: how scripts of the shell are spelled.

Owns:
- blanks, comments and the characters that end a word;
- reading words, with their quotes and expansions;
- reading commands, and whole scripts line by line.

A script is read one complete line at a time, so what stands before a line that
cannot be read is still there to be run.  `fuel` bounds the recursion; every
reader gets more of it than its text has characters.
-/

namespace DocSamples.Shell

structure Cursor where
  rest : RawText
  line : Nat := 1
deriving DecidableEq

/-- Something that reads from a script, or gives up at a line. -/
abbrev Reader := StateT Cursor (Except Nat)

namespace Reader

/-- Give up at the current line. -/
def giveUp {α : Type} : Reader α := do
  throw (← get).line

def rest : Reader RawText := do
  return (← get).rest

def skip (count : Nat) : Reader Unit :=
  modify fun cursor =>
    { rest := cursor.rest.drop count
      line := cursor.line + (cursor.rest.take count).count '\n' }

/-- Read a given text if it comes next. -/
def accept (text : String) : Reader Bool := do
  if text.toList.isPrefixOf (← rest) then
    skip text.length
    return true
  else
    return false

/-- Read a given text, which has to come next. -/
def expect (text : String) : Reader Unit := do
  unless ← accept text do giveUp

/-- How many characters of a text are blanks, joined lines or a comment. -/
def blankLength : RawText → Nat
  | '\\' :: '\n' :: rest => blankLength rest + 2
  | '#' :: rest => (rest.takeWhile (· != '\n')).length + 1
  | character :: rest =>
    if character == ' ' || character == '\t' then blankLength rest + 1 else 0
  | [] => 0

/-- How many characters of a text lie before the next command.  `inComment` says
whether the text starts within a comment. -/
def linesLength (inComment : Bool) : RawText → Nat
  | [] => 0
  | '\n' :: rest => linesLength false rest + 1
  | '\\' :: '\n' :: rest => linesLength false rest + 2
  | character :: rest =>
    if inComment || character == '#' then linesLength true rest + 1
    else if character == ' ' || character == '\t' then linesLength false rest + 1
    else 0

def skipBlanks : Reader Unit := do
  skip (blankLength (← rest))

/-- Skip blanks, comments and ends of lines. -/
def skipLines : Reader Unit := do
  skip (linesLength false (← rest))

end Reader

def endsWord (character : Char) : Bool :=
  [' ', '\t', '\n', ';', '&', '|', '<', '>', '(', ')'].contains character

def startsName (character : Char) : Bool :=
  character.isAlpha || character == '_'

def goesOnName (character : Char) : Bool :=
  character.isAlphanum || character == '_'

def isSpecialParameter (character : Char) : Bool :=
  ['@', '*', '#', '?', '$', '!', '-'].contains character

def isEscapedInQuotes (character : Char) : Bool :=
  ['$', '"', '\\', '\x7d', '\x60'].contains character

/-- Where a run of pieces ends. -/
inductive Closing where
  | word
  | quote
  | brace
  | textEnd
deriving DecidableEq

def consCharacter (character : Char) (quoted : Bool) : List Piece → List Piece
  | .literal text sameQuoted :: rest =>
    if quoted == sameQuoted then .literal (character :: text) quoted :: rest
    else .literal [character] quoted :: .literal text sameQuoted :: rest
  | pieces => .literal [character] quoted :: pieces

def cutArithmetic (depth : Nat) : RawText → Option (RawText × RawText)
  | [] => none
  | ')' :: rest =>
    match depth, rest with
    | 0, ')' :: after => some ([], after)
    | 0, _ => none
    | depth + 1, _ => (cutArithmetic depth rest).map fun (inside, after) => (')' :: inside, after)
  | character :: rest =>
    (cutArithmetic (if character == '(' then depth + 1 else depth) rest).map
      fun (inside, after) => (character :: inside, after)

/-- The words that have a meaning of their own where a command may start. -/
def keywords : List String :=
  ["if", "then", "elif", "else", "fi", "while", "until", "do", "done", "for", "case", "esac",
    "\x7b", "\x7d", "!"]

def closingKeywords : List String :=
  ["then", "elif", "else", "fi", "do", "done", "esac", "\x7d"]

def keywordAt? (text : RawText) : Option String :=
  let word := text.takeWhile (!endsWord ·)
  keywords.find? (·.toList == word)

def endsList (text : RawText) : Bool :=
  match text with
  | [] => true
  | ')' :: _ => true
  | ';' :: ';' :: _ => true
  | _ => (keywordAt? text).any closingKeywords.contains

/-- The name and the length of an assignment at the start of a text, up to and
with its equals sign. -/
def assignmentAt? (text : RawText) : Option RawText :=
  match text with
  | first :: _ =>
    let name := text.takeWhile goesOnName
    if startsName first && (text.drop name.length).head? == some '=' then some name else none
  | [] => none

/-- The digits of a descriptor before a redirection at the start of a text; empty
if there are none, nothing if no redirection starts here. -/
def redirectionAt? (text : RawText) : Option RawText :=
  let digits := text.takeWhile Char.isDigit
  match (text.drop digits.length).head? with
  | some '<' | some '>' => if digits.length ≤ 1 then some digits else none
  | _ => none

def Command.withRedirects (command : Command) (redirects : List Redirect) : Command :=
  if redirects.isEmpty then command else .redirected command redirects

namespace Reader

def acceptKeyword (keyword : String) : Reader Bool := do
  if keywordAt? (← rest) == some keyword then accept keyword else return false

def expectKeyword (keyword : String) : Reader Unit := do
  skipLines
  unless ← acceptKeyword keyword do giveUp

def name : Reader RawText := do
  let text ← rest
  let name := text.takeWhile goesOnName
  if text.head?.any startsName then
    skip name.length
    return name
  else
    giveUp

/-- Read the name of a parameter that stands without braces, if one comes next. -/
def parameterName? : Reader (Option RawText) := do
  match ← rest with
  | [] => return none
  | first :: _ =>
    if startsName first then return some (← name)
    else if first.isDigit || isSpecialParameter first then
      skip 1
      return some [first]
    else return none

def bracedName : Reader RawText := do
  let text ← rest
  let digits := text.takeWhile Char.isDigit
  if digits.isEmpty then
    match ← parameterName? with
    | some name => return name
    | none => giveUp
  else
    skip digits.length
    return digits

mutual

/-- Read pieces of a word up to where they end; a closing character is read too. -/
def pieces (fuel : Nat) (closing : Closing) (quoted : Bool) : Reader (List Piece) := do
  match fuel with
  | 0 => giveUp
  | fuel + 1 =>
    match ← rest with
    | [] => if closing = .word ∨ closing = .textEnd then return [] else giveUp
    | character :: after =>
      if closing = .word ∧ endsWord character then
        return []
      else if (closing = .quote ∧ character = '"') ∨ (closing = .brace ∧ character = '\x7d') then
        skip 1
        return []
      else if character = '\\' then
        match after.head? with
        | none =>
          skip 1
          return consCharacter '\\' true (← pieces fuel closing quoted)
        | some '\n' =>
          skip 2
          pieces fuel closing quoted
        | some escaped =>
          if quoted && !isEscapedInQuotes escaped then
            skip 1
            return consCharacter '\\' true (← pieces fuel closing quoted)
          else
            skip 2
            return consCharacter escaped true (← pieces fuel closing quoted)
      else if character = '\'' ∧ !quoted then
        let inside := after.takeWhile (· != '\'')
        skip (1 + inside.length)
        expect "'"
        return .literal inside true :: (← pieces fuel closing quoted)
      else if character = '"' ∧ closing ≠ .textEnd then
        skip 1
        let inside ← pieces fuel .quote true
        return .literal [] true :: inside ++ (← pieces fuel closing quoted)
      else if character = '$' then
        skip 1
        match ← expansion? fuel quoted with
        | some piece => return piece :: (← pieces fuel closing quoted)
        | none => return consCharacter '$' quoted (← pieces fuel closing quoted)
      else
        skip 1
        return consCharacter character quoted (← pieces fuel closing quoted)

def expansion? (fuel : Nat) (quoted : Bool) : Reader (Option Piece) := do
  match fuel with
  | 0 => giveUp
  | fuel + 1 =>
    if ← accept "((" then
      match cutArithmetic 0 (← rest) with
      | none => giveUp
      | some (inside, after) =>
        set { rest := inside, line := (← get).line : Cursor }
        let expression ← pieces fuel .textEnd true
        set { rest := after, line := (← get).line : Cursor }
        return some (.arithmetic expression quoted)
    else if ← accept "(" then
      let script ← commands fuel
      expect ")"
      return some (.substitution script quoted)
    else if ← accept "\x7b" then
      return some (← braced fuel quoted)
    else
      return (← parameterName?).map (.parameter · .value quoted)

/-- Read an expansion in braces, after its opening brace. -/
def braced (fuel : Nat) (quoted : Bool) : Reader Piece := do
  match fuel with
  | 0 => giveUp
  | fuel + 1 =>
    match ← rest with
    | '#' :: second :: _ =>
      if second != '\x7d' && (goesOnName second || isSpecialParameter second) then
        skip 1
        let name ← bracedName
        expect "\x7d"
        return .parameter name .length quoted
      else
        operation fuel quoted
    | _ => operation fuel quoted

def operation (fuel : Nat) (quoted : Bool) : Reader Piece := do
  match fuel with
  | 0 => giveUp
  | fuel + 1 =>
    let name ← bracedName
    if ← accept "\x7d" then
      return .parameter name .value quoted
    else if ← accept "%%" then
      return .parameter name (.trim true true (← pieces fuel .brace false)) quoted
    else if ← accept "%" then
      return .parameter name (.trim true false (← pieces fuel .brace false)) quoted
    else if ← accept "##" then
      return .parameter name (.trim false true (← pieces fuel .brace false)) quoted
    else if ← accept "#" then
      return .parameter name (.trim false false (← pieces fuel .brace false)) quoted
    else
      let emptyToo ← accept ":"
      let fallback ←
        if ← accept "-" then pure Fallback.substitute
        else if ← accept "=" then pure Fallback.assign
        else if ← accept "+" then pure Fallback.alternative
        else giveUp
      return .parameter name (.otherwise fallback emptyToo (← pieces fuel .brace quoted)) quoted

def commands (fuel : Nat) : Reader (List Command) := do
  match fuel with
  | 0 => giveUp
  | fuel + 1 =>
    skipLines
    if endsList (← rest) then
      return []
    else
      let first ← alternatives fuel
      skipBlanks
      match ← rest with
      | ';' :: ';' :: _ => return [first]
      | ';' :: _ | '&' :: _ =>
        skip 1
        return first :: (← commands fuel)
      | '\n' :: _ => return first :: (← commands fuel)
      | text => if endsList text then return [first] else giveUp

/-- Read commands joined by `&&` and `||`. -/
def alternatives (fuel : Nat) : Reader Command := do
  match fuel with
  | 0 => giveUp
  | fuel + 1 => moreAlternatives fuel (← stages fuel)

def moreAlternatives (fuel : Nat) (first : Command) : Reader Command := do
  match fuel with
  | 0 => giveUp
  | fuel + 1 =>
    skipBlanks
    if ← accept "&&" then
      skipLines
      moreAlternatives fuel (.both first (← stages fuel))
    else if ← accept "||" then
      skipLines
      moreAlternatives fuel (.either first (← stages fuel))
    else
      return first

/-- Read a pipeline. -/
def stages (fuel : Nat) : Reader Command := do
  match fuel with
  | 0 => giveUp
  | fuel + 1 =>
    skipBlanks
    if ← acceptKeyword "!" then
      return .negated (← stages fuel)
    else
      let first ← command fuel
      skipBlanks
      match ← rest with
      | '|' :: '|' :: _ => return first
      | '|' :: _ =>
        skip 1
        skipLines
        return .pipeline first (← stages fuel)
      | _ => return first

def command (fuel : Nat) : Reader Command := do
  match fuel with
  | 0 => giveUp
  | fuel + 1 =>
    skipBlanks
    let text ← rest
    if text.head? == some '(' then
      skip 1
      let body ← commands fuel
      expect ")"
      return Command.withRedirects (.subshell body) (← redirects fuel)
    else
      match keywordAt? text with
      | none => simple fuel
      | some keyword =>
        let _ ← accept keyword
        let compound ← compoundCommand fuel keyword
        return compound.withRedirects (← redirects fuel)

def compoundCommand (fuel : Nat) (keyword : String) : Reader Command := do
  match fuel with
  | 0 => giveUp
  | fuel + 1 =>
    if keyword == "\x7b" then
      let body ← commands fuel
      expectKeyword "\x7d"
      return .group body
    else if keyword == "if" then
      choices fuel
    else if keyword == "while" || keyword == "until" then
      let condition ← commands fuel
      expectKeyword "do"
      let body ← commands fuel
      expectKeyword "done"
      return .loop (keyword == "while") condition body
    else if keyword == "for" then
      skipBlanks
      let counter ← name
      skipLines
      let given ← do
        if "in".toList == (← rest).takeWhile (!endsWord ·) then
          skip 2
          words fuel
        else
          pure [[.parameter ['@'] .value true]]
      skipBlanks
      let _ ← accept ";"
      expectKeyword "do"
      let body ← commands fuel
      expectKeyword "done"
      return .each counter given body
    else if keyword == "case" then
      skipBlanks
      let word ← pieces fuel .word false
      skipLines
      expect "in"
      return .choose word (← arms fuel)
    else
      giveUp

/-- Read a conditional command after its opening keyword. -/
def choices (fuel : Nat) : Reader Command := do
  match fuel with
  | 0 => giveUp
  | fuel + 1 =>
    let condition ← commands fuel
    expectKeyword "then"
    let body ← commands fuel
    skipLines
    if ← acceptKeyword "elif" then
      return .branch condition body [← choices fuel]
    else if ← acceptKeyword "else" then
      let otherwise ← commands fuel
      expectKeyword "fi"
      return .branch condition body otherwise
    else
      expectKeyword "fi"
      return .branch condition body []

def arms (fuel : Nat) : Reader (List Arm) := do
  match fuel with
  | 0 => giveUp
  | fuel + 1 =>
    skipLines
    if ← acceptKeyword "esac" then
      return []
    else
      let _ ← accept "("
      let patterns ← alternativePatterns fuel
      let body ← commands fuel
      skipLines
      let arm := Arm.arm patterns body
      if ← accept ";;" then
        return arm :: (← arms fuel)
      else
        expectKeyword "esac"
        return [arm]

def alternativePatterns (fuel : Nat) : Reader (List (List Piece)) := do
  match fuel with
  | 0 => giveUp
  | fuel + 1 =>
    skipBlanks
    let pattern ← pieces fuel .word false
    skipBlanks
    if ← accept "|" then
      return pattern :: (← alternativePatterns fuel)
    else
      expect ")"
      return [pattern]

def words (fuel : Nat) : Reader (List (List Piece)) := do
  match fuel with
  | 0 => giveUp
  | fuel + 1 =>
    skipBlanks
    if (← rest).head?.all endsWord then
      return []
    else
      let word ← pieces fuel .word false
      return word :: (← words fuel)

def redirect? (fuel : Nat) : Reader (Option Redirect) := do
  match fuel with
  | 0 => giveUp
  | fuel + 1 =>
    match redirectionAt? (← rest) with
    | none => return none
    | some digits =>
      skip digits.length
      if ← accept ">&" then
        let toError ← accept "2"
        unless toError do expect "1"
        return some (.join (digits == ['2']))
      else if ← accept ">>" then
        skipBlanks
        return some (.toFile (digits == ['2']) true (← pieces fuel .word false))
      else if ← accept ">" then
        let _ ← accept "|"
        skipBlanks
        return some (.toFile (digits == ['2']) false (← pieces fuel .word false))
      else
        expect "<"
        skipBlanks
        return some (.fromFile (← pieces fuel .word false))

def redirects (fuel : Nat) : Reader (List Redirect) := do
  match fuel with
  | 0 => giveUp
  | fuel + 1 =>
    skipBlanks
    match ← redirect? fuel with
    | none => return []
    | some redirect => return redirect :: (← redirects fuel)

/-- Read a command that is a list of words. -/
def simple (fuel : Nat) : Reader Command := do
  match fuel with
  | 0 => giveUp
  | fuel + 1 =>
    let line := (← get).line
    let read ← simpleParts fuel true
    match read with
    | ([], [], []) => giveUp
    | (assignments, words, redirects) => return .simple line assignments words redirects

/-- Read the parts of a simple command: assignments while no word has come, words
and redirections. -/
def simpleParts (fuel : Nat) (mayAssign : Bool) :
    Reader (List Assignment × List (List Piece) × List Redirect) := do
  match fuel with
  | 0 => giveUp
  | fuel + 1 =>
    skipBlanks
    match ← redirect? fuel with
    | some redirect =>
      let (assignments, words, redirects) ← simpleParts fuel mayAssign
      return (assignments, words, redirect :: redirects)
    | none =>
      let text ← rest
      if text.head?.all endsWord then
        return ([], [], [])
      else
        match if mayAssign then assignmentAt? text else none with
        | some name =>
          skip (name.length + 1)
          let value ← pieces fuel .word false
          let (assignments, words, redirects) ← simpleParts fuel true
          return (.assign name value :: assignments, words, redirects)
        | none =>
          let word ← pieces fuel .word false
          let (assignments, words, redirects) ← simpleParts fuel false
          return (assignments, word :: words, redirects)

end

/-- Read the commands of one complete line. -/
def lineCommands : (fuel : Nat) → Reader (List Command)
  | 0 => giveUp
  | fuel + 1 => do
    let first ← alternatives fuel
    skipBlanks
    match ← rest with
    | [] => return [first]
    | ';' :: ';' :: _ => giveUp
    | ';' :: _ | '&' :: _ =>
      skip 1
      skipBlanks
      if (← rest).head?.all (· == '\n') then return [first]
      else return first :: (← lineCommands fuel)
    | '\n' :: _ => return [first]
    | _ => giveUp

/-- More recursion than reading a text can take. -/
def enough (text : RawText) : Nat :=
  16 * text.length + 64

end Reader

def Script.readFrom : (fuel : Nat) → Cursor → Script
  | 0, cursor => ⟨[], some cursor.line⟩
  | fuel + 1, cursor =>
    match (do Reader.skipLines; return (← Reader.rest).isEmpty : Reader Bool).run cursor with
    | .error line => ⟨[], some line⟩
    | .ok (true, _) => ⟨[], none⟩
    | .ok (false, start) =>
      match (Reader.lineCommands (Reader.enough start.rest)).run start with
      | .error line => ⟨[], some line⟩
      | .ok (commands, next) =>
        let later := readFrom fuel next
        ⟨commands ++ later.commands, later.fault?⟩

def Script.ofText (text : RawText) : Script :=
  readFrom (text.length + 1) { rest := text }

end DocSamples.Shell
