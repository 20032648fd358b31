import DocSamples.Toml.Quoted
import DocSamples.Toml.Scalar

/-!
Contract: how TOML documents are spelled.

Owns:
- keys, with and without dots;
- values of every kind, nested up to a limit;
- statements and documents.

Each reader gives back what it read and what follows.  Loops are bounded by the
length of the text they start from, since every round reads something.
-/

namespace DocSamples.Toml

def isKeyCharacter (character : Char) : Bool :=
  character.isAlphanum || character == '_' || character == '-'

def keyPart? (text : Text) : Option (Text × Text) :=
  let bare := text.takeWhile isKeyCharacter
  if bare.isEmpty then shortString? text else some (bare, text.drop bare.length)

/-- Read a key as the list of its parts, between which there are dots. -/
def keyParts? : (rounds : Nat) → Text → Option (List Text × Text)
  | 0, _ => none
  | rounds + 1, text =>
    match keyPart? text with
    | none => none
    | some (part, rest) =>
      match skipBlanks rest with
      | '.' :: more =>
        match keyParts? rounds (skipBlanks more) with
        | none => none
        | some (parts, after) => some (part :: parts, after)
      | after => some ([part], after)

/-- How deep values may lie within each other, and how many parts a key may have
before its last. -/
def nestingLimit : Nat := 80

/-- A key: what stands before its last part, and that part. -/
structure Key where
  path : List Text
  last : Text
deriving DecidableEq

/-- Read a key, and the blanks after it. -/
def key? (text : Text) : Option (Key × Text) :=
  match keyParts? (text.length + 1) text with
  | none => none
  | some (parts, rest) =>
    match parts.getLast? with
    | none => none
    | some last =>
      if nestingLimit ≤ parts.dropLast.length then none
      else some (⟨parts.dropLast, last⟩, rest)

def arrayItems? (item? : Text → Option (Value × Text)) :
    (rounds : Nat) → Text → Option (List Value × Text)
  | 0, _ => none
  | rounds + 1, text =>
    match skipTrivia text with
    | ']' :: rest => some ([], rest)
    | start =>
      match item? start with
      | none => none
      | some (item, after) =>
        match skipTrivia after with
        | ']' :: rest => some ([item], rest)
        | ',' :: rest =>
          match arrayItems? item? rounds rest with
          | none => none
          | some (items, final) => some (item :: items, final)
        | _ => none

/-- Read a key, its equals sign and its value. -/
def entry? (item? : Text → Option (Value × Text)) (text : Text) :
    Option ((Key × Value) × Text) :=
  match key? text with
  | none => none
  | some (key, afterKey) =>
    match afterKey with
    | '=' :: afterSign =>
      match item? (skipBlanks afterSign) with
      | none => none
      | some (value, rest) => some ((key, value), rest)
    | _ => none

def tableEntries? (item? : Text → Option (Value × Text)) :
    (rounds : Nat) → Text → Option (List (Key × Value) × Text)
  | 0, _ => none
  | rounds + 1, text =>
    match skipTrivia text with
    | '\x7d' :: rest => some ([], rest)
    | start =>
      match entry? item? start with
      | none => none
      | some (entry, after) =>
        match skipTrivia after with
        | '\x7d' :: rest => some ([entry], rest)
        | ',' :: rest =>
          match tableEntries? item? rounds rest with
          | none => none
          | some (entries, final) => some (entry :: entries, final)
        | _ => none

def inlineTable? (entries : List (Key × Value)) : Option Value :=
  (entries.foldlM
    (fun table (entry : Key × Value) =>
      addDotted? entry.1.path entry.1.last entry.2 .inline table) []).map
    (.table .inline)

/-- Read a value in which others lie at most so deep. -/
def value? : (depth : Nat) → Text → Option (Value × Text)
  | depth, text =>
    match text with
    | '"' :: _ | '\'' :: _ =>
      match string? text with
      | none => none
      | some (value, rest) => some (.text value, rest)
    | '[' :: inside =>
      match depth with
      | 0 => none
      | depth + 1 =>
        match arrayItems? (value? depth) (inside.length + 1) inside with
        | none => none
        | some (items, rest) => some (.array items, rest)
    | '\x7b' :: inside =>
      match depth with
      | 0 => none
      | depth + 1 =>
        match tableEntries? (value? depth) (inside.length + 1) inside with
        | none => none
        | some (entries, rest) =>
          match inlineTable? entries with
          | none => none
          | some table => some (table, rest)
    | _ => scalar? text

/-- Read the key of a header, between blanks. -/
def headerKey? (text : Text) : Option (Key × Text) :=
  key? (skipBlanks text)

def statement? (text : Text) : Option (Statement × Text) :=
  match text with
  | '[' :: '[' :: inside =>
    match headerKey? inside with
    | some (key, ']' :: ']' :: after) =>
      (finishLine? after).map fun rest => (.elementHeader key.path key.last, rest)
    | _ => none
  | '[' :: inside =>
    match headerKey? inside with
    | some (key, ']' :: after) =>
      (finishLine? after).map fun rest => (.tableHeader key.path key.last, rest)
    | _ => none
  | _ =>
    match entry? (value? nestingLimit) text with
    | none => none
    | some ((key, value), after) =>
      (finishLine? after).map fun rest => (.assignment key.path key.last value, rest)

def statements? : (rounds : Nat) → Text → Option (List Statement)
  | 0, _ => none
  | rounds + 1, text =>
    match skipTrivia text with
    | [] => some []
    | start =>
      match statement? start with
      | none => none
      | some (statement, rest) =>
        match statements? rounds rest with
        | none => none
        | some later => some (statement :: later)

/-- A text without the mark that may say in which order its bytes come. -/
def skipByteOrderMark : Text → Text
  | '\uFEFF' :: rest => rest
  | text => text

/-- The entries of the document that a text spells, if it spells one. -/
def read? (text : Text) : Option Entries :=
  let start := skipByteOrderMark text
  (statements? (start.length + 1) start).bind entriesOf?

end DocSamples.Toml
