import DocSamples.Toml.Line

/-!
Contract: the strings of TOML.

Owns:
- escapes;
- the four forms: with escapes or without, on one line or on several.

Each reader is given what follows the opening quotes and gives back what follows the
closing ones.
-/

namespace DocSamples.Toml

def hexDigit? (character : Char) : Option Nat :=
  if '0' ≤ character ∧ character ≤ '9' then some (character.toNat - '0'.toNat)
  else if 'a' ≤ character ∧ character ≤ 'f' then some (character.toNat - 'a'.toNat + 10)
  else if 'A' ≤ character ∧ character ≤ 'F' then some (character.toNat - 'A'.toNat + 10)
  else none

def hexNumber? (digits : Text) : Option Nat :=
  digits.foldlM (fun value digit => (hexDigit? digit).map (value * 16 + ·)) 0

def characterOf? (number : Nat) : Option Char :=
  if number.isValidChar then some (Char.ofNat number) else none

def shortEscape? : Char → Option Char
  | 'b' => some '\x08'
  | 't' => some '\t'
  | 'n' => some '\n'
  | 'f' => some '\x0c'
  | 'r' => some '\r'
  | 'e' => some '\x1b'
  | '"' => some '"'
  | '\\' => some '\\'
  | _ => none

def numericEscapeSize? : Char → Option Nat
  | 'x' => some 2
  | 'u' => some 4
  | 'U' => some 8
  | _ => none

/-- What an escape stands for, given what follows its backslash, and how many
characters after the backslash belong to it. -/
def escape? : Text → Option (Char × Nat)
  | [] => none
  | letter :: rest =>
    match shortEscape? letter with
    | some character => some (character, 1)
    | none =>
      match numericEscapeSize? letter with
      | none => none
      | some size =>
        if rest.length < size then none
        else
          match (hexNumber? (rest.take size)).bind characterOf? with
          | none => none
          | some character => some (character, size + 1)

def consRead (character : Char) : Option (Text × Text) → Option (Text × Text)
  | none => none
  | some (text, rest) => some (character :: text, rest)

/-- Read a string on one line, with escapes.  `skipped` is how many characters belong
to the escape before them. -/
def basicFrom : (skipped : Nat) → Text → Option (Text × Text)
  | _, [] => none
  | skipped + 1, _ :: rest => basicFrom skipped rest
  | 0, '"' :: rest => some ([], rest)
  | 0, '\\' :: rest =>
    match escape? rest with
    | none => none
    | some (character, size) => consRead character (basicFrom size rest)
  | 0, character :: rest =>
    if isPlain character then consRead character (basicFrom 0 rest) else none

/-- Read a string on one line, without escapes. -/
def literal : Text → Option (Text × Text)
  | [] => none
  | '\'' :: rest => some ([], rest)
  | character :: rest =>
    if isPlain character then consRead character (literal rest) else none

/-- What follows three closing quotes and up to two more, which belong to the string,
and how many those are. -/
def closingQuotes? (quote : Char) (text : Text) : Option (Nat × Text) :=
  let count := min 5 (text.takeWhile (· == quote)).length
  if count < 3 then none else some (count - 3, text.drop count)

/-- Whether only blanks stand between a text's start and the end of its line. -/
def startsBlankLine (text : Text) : Bool :=
  (afterNewline? (skipBlanks text)).isSome

def spaceLength : Text → Nat
  | '\r' :: '\n' :: rest => spaceLength rest + 2
  | character :: rest =>
    if isBlank character || character == '\n' then spaceLength rest + 1 else 0
  | [] => 0

/-- Read a string on several lines, with escapes.  A backslash at the end of a line
joins it to the next character that is neither a blank nor the end of a line. -/
def longBasicFrom : (skipped : Nat) → Text → Option (Text × Text)
  | _, [] => none
  | skipped + 1, _ :: rest => longBasicFrom skipped rest
  | 0, '"' :: rest =>
    match closingQuotes? '"' ('"' :: rest) with
    | some (more, after) => some (List.replicate more '"', after)
    | none => consRead '"' (longBasicFrom 0 rest)
  | 0, '\\' :: rest =>
    if startsBlankLine rest then longBasicFrom (spaceLength rest) rest
    else
      match escape? rest with
      | none => none
      | some (character, size) => consRead character (longBasicFrom size rest)
  | 0, '\r' :: '\n' :: rest => consRead '\r' (consRead '\n' (longBasicFrom 0 rest))
  | 0, character :: rest =>
    if isPlain character || character == '\n' then consRead character (longBasicFrom 0 rest)
    else none

/-- Read a string on several lines, without escapes. -/
def longLiteral : Text → Option (Text × Text)
  | [] => none
  | '\'' :: rest =>
    match closingQuotes? '\'' ('\'' :: rest) with
    | some (more, after) => some (List.replicate more '\'', after)
    | none => consRead '\'' (longLiteral rest)
  | '\r' :: '\n' :: rest => consRead '\r' (consRead '\n' (longLiteral rest))
  | character :: rest =>
    if isPlain character || character == '\n' then consRead character (longLiteral rest)
    else none

/-- A text without the end of a line at its start, if it has one there. -/
def skipFirstNewline (text : Text) : Text :=
  (afterNewline? text).getD text

def shortString? : Text → Option (Text × Text)
  | '"' :: rest => basicFrom 0 rest
  | '\'' :: rest => literal rest
  | _ => none

def string? : Text → Option (Text × Text)
  | '"' :: '"' :: '"' :: rest => longBasicFrom 0 (skipFirstNewline rest)
  | '\'' :: '\'' :: '\'' :: rest => longLiteral (skipFirstNewline rest)
  | text => shortString? text

end DocSamples.Toml
