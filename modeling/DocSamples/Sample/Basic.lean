import DocSamples.Text.Blank

/-!
Contract: the samples of a document and the lines that make them up.

Owns:
- the type of samples;
- the marks of a line: indented, empty.

Does not own: which indented lines are code (`Sample/Scanner`) or how a sample is
run (`Sample/Mode`).
-/

namespace DocSamples

/-- A block of code taken from a document, with its indentation removed. -/
structure Sample where
  /-- The lines of code, each with a line feed at its end. -/
  code : Text
  /-- The number of the first code line in the document, counted from one. -/
  line : Nat
  /-- The position among the samples of the document, counted from zero. -/
  index : Nat
deriving DecidableEq

def indentWidth : Nat := 4

def indent : Text :=
  List.replicate indentWidth ' '

def isIndented (line : Text) : Bool :=
  indent.isPrefixOf line

def codeOfLine (line : Text) : Text :=
  line.drop indentWidth ++ ['\n']

end DocSamples
