import DocSamples.Sample.Basic

/-!
Contract: the samples of a document, found in one pass over its lines.

Owns:
- the state between two lines and the step from one line to the next;
- all samples of a text, and the same samples asked for one at a time.

A block of code opens at an indented line that comes first in the document or
directly after an empty line.  Empty lines do not close it and add nothing to
it; any other line that is not indented closes it.  A block of nothing but white
space is dropped and takes no index.
-/

namespace DocSamples

/-- What is remembered between two lines of a document. -/
structure Scanner where
  remaining : List Text
  /-- The number of the next line, counted from one. -/
  lineNumber : Nat := 1
  /-- The code of the block that is open; empty if none is. -/
  block : Text := []
  blockLine : Nat := 0
  /-- Whether an indented line may open a block here. -/
  afterEmpty : Bool := true
  handedOut : Nat := 0
  finished : Bool := false
deriving DecidableEq

namespace Scanner

def ofText (text : Text) : Scanner :=
  { remaining := lines text }

/-- Close the open block: hand it out unless it is blank. -/
def close (scanner : Scanner) : Option Sample × Scanner :=
  if isBlank scanner.block then
    (none, { scanner with block := [] })
  else
    (some ⟨scanner.block, scanner.blockLine, scanner.handedOut⟩,
      { scanner with block := [], handedOut := scanner.handedOut + 1 })

/-- Whether the next line, if it is indented, belongs to a block. -/
def takesCode (scanner : Scanner) : Bool :=
  !scanner.block.isEmpty || scanner.afterEmpty

/-- Add a line of code to the open block, or open a block with it. -/
def addCode (scanner : Scanner) (line : Text) : Scanner :=
  { scanner with
    block := scanner.block ++ codeOfLine line
    blockLine := if scanner.block.isEmpty then scanner.lineNumber else scanner.blockLine
    afterEmpty := false }

/-- Read one line, which is no longer among the remaining ones. -/
def readLine (scanner : Scanner) (line : Text) : Option Sample × Scanner :=
  let after := fun (state : Scanner) => { state with lineNumber := state.lineNumber + 1 }
  if line.isEmpty then
    (none, after { scanner with afterEmpty := true })
  else if isIndented line && scanner.takesCode then
    (none, after (scanner.addCode line))
  else
    let closed := { scanner with afterEmpty := false }.close
    (closed.1, after closed.2)

/-- Read lines up to the next sample.  `remaining` of the given state is not
looked at: the lines to read are given apart, and each answer carries those that
are left. -/
def nextFrom (scanner : Scanner) : List Text → Option Sample × Scanner
  | [] =>
    let closed := scanner.close
    (closed.1, { closed.2 with remaining := [], finished := true })
  | line :: remaining =>
    match scanner.readLine line with
    | (some sample, after) => (some sample, { after with remaining := remaining })
    | (none, after) => after.nextFrom remaining

/-- The next sample, if there is one, and the state after it.  Once there is
none, there is none ever after. -/
def next (scanner : Scanner) : Option Sample × Scanner :=
  if scanner.finished then (none, scanner) else scanner.nextFrom scanner.remaining

/-- All samples in the given lines and in the block that is open before them. -/
def samplesFrom (scanner : Scanner) : List Text → List Sample
  | [] => scanner.close.1.toList
  | line :: remaining =>
    (scanner.readLine line).1.toList ++ (scanner.readLine line).2.samplesFrom remaining

/-- All samples that have not been handed out. -/
def samples (scanner : Scanner) : List Sample :=
  if scanner.finished then [] else scanner.samplesFrom scanner.remaining

end Scanner

/-- The samples of a text, in the order of the document. -/
def extract (text : Text) : List Sample :=
  (Scanner.ofText text).samples

end DocSamples
