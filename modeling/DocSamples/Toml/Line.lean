import DocSamples.Text.Basic

/-!
Contract: what lies between the statements and the values of a TOML document.

Owns:
- blanks, comments and ends of lines;
- the characters that a comment or a string may hold.
-/

namespace DocSamples.Toml

def isBlank (character : Char) : Bool :=
  character == ' ' || character == '\t'

/-- Whether a character may stand in a comment or, by itself, in a string: all but
the controls other than the tab. -/
def isPlain (character : Char) : Bool :=
  character == '\t' || (0x20 ≤ character.toNat && character.toNat != 0x7F)

def skipBlanks (text : Text) : Text :=
  text.dropWhile isBlank

def afterNewline? : Text → Option Text
  | '\n' :: rest => some rest
  | '\r' :: '\n' :: rest => some rest
  | _ => none

def skipComment : Text → Text
  | '#' :: rest => rest.dropWhile isPlain
  | text => text

/-- What follows the line that a text starts in, of which only blanks and a comment
may be left. -/
def finishLine? (text : Text) : Option Text :=
  match skipComment (skipBlanks text) with
  | [] => some []
  | rest => afterNewline? rest

/-- A text without the blanks, comments and ends of lines at its start.  `inComment`
says whether it starts within a comment. -/
def skipTriviaFrom (inComment : Bool) : Text → Text
  | [] => []
  | '\n' :: rest => skipTriviaFrom false rest
  | '\r' :: '\n' :: rest => skipTriviaFrom false rest
  | character :: rest =>
    if inComment then
      if isPlain character then skipTriviaFrom true rest else character :: rest
    else if isBlank character then skipTriviaFrom false rest
    else if character == '#' then skipTriviaFrom true rest
    else character :: rest

def skipTrivia (text : Text) : Text :=
  skipTriviaFrom false text

end DocSamples.Toml
