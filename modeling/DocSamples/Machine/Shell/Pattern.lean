import DocSamples.Machine.Session

/-!
Contract: the patterns by which a shell chooses and trims.

Owns:
- patterns as sequences of elements, and reading them;
- when a text matches a pattern;
- cutting off what a pattern matches at either end.

A quoted character always stands for itself.
-/

namespace DocSamples.Shell

/-- A character of a word that has been expanded, and whether it was quoted. -/
structure Letter where
  character : Char
  quoted : Bool
deriving DecidableEq

inductive PatternElement where
  | exactly (character : Char)
  | anyOne
  | anyRun
  /-- A character from one of some ranges, or from none of them. -/
  | oneOf (negated : Bool) (ranges : List (Char × Char))
deriving DecidableEq

def Letter.isBare (letter : Letter) (character : Char) : Bool :=
  !letter.quoted && letter.character == character

def rangesOf : List Letter → List (Char × Char)
  | first :: dash :: last :: rest =>
    if dash.isBare '-' then (first.character, last.character) :: rangesOf rest
    else (first.character, first.character) :: rangesOf (dash :: last :: rest)
  | letter :: rest => (letter.character, letter.character) :: rangesOf rest
  | [] => []

/-- What an opening bracket stands for, given the letters after it, and the number
of those letters that belong to it. -/
def bracketElement (letters : List Letter) : PatternElement × Nat :=
  let negated := letters.head?.any fun letter => letter.isBare '!' || letter.isBare '^'
  let body := letters.drop negated.toNat
  let inside := body.take 1 ++ (body.drop 1).takeWhile (!·.isBare ']')
  if (body.drop inside.length).isEmpty then (.exactly '[', 0)
  else (.oneOf negated (rangesOf inside), negated.toNat + inside.length + 1)

/-- Read a pattern.  `skipped` is how many letters belong to the bracket before
them. -/
def patternFrom (skipped : Nat) : List Letter → List PatternElement
  | [] => []
  | letter :: rest =>
    match skipped with
    | more + 1 => patternFrom more rest
    | 0 =>
      if letter.isBare '*' then .anyRun :: patternFrom 0 rest
      else if letter.isBare '?' then .anyOne :: patternFrom 0 rest
      else if letter.isBare '[' then
        (bracketElement rest).1 :: patternFrom (bracketElement rest).2 rest
      else .exactly letter.character :: patternFrom 0 rest

def patternOf (letters : List Letter) : List PatternElement :=
  patternFrom 0 letters

def PatternElement.accepts (element : PatternElement) (character : Char) : Bool :=
  match element with
  | .exactly wanted => character == wanted
  | .anyOne | .anyRun => true
  | .oneOf negated ranges =>
    ranges.any (fun range => range.1 ≤ character && character ≤ range.2) != negated

def anySuffix (condition : RawText → Bool) : RawText → Bool
  | [] => condition []
  | character :: rest => condition (character :: rest) || anySuffix condition rest

/-- Whether a pattern matches the whole of a text. -/
def matchesPattern : List PatternElement → RawText → Bool
  | [], text => text.isEmpty
  | .anyRun :: elements, text => anySuffix (matchesPattern elements) text
  | element :: elements, text =>
    match text with
    | [] => false
    | character :: rest => element.accepts character && matchesPattern elements rest

/-- What is left of a text when the part that a pattern matches is cut off, at its
end or at its start, as much as possible or as little; the text itself if nothing
matches. -/
def trimPattern (fromEnd longest : Bool) (pattern : List PatternElement) (text : RawText) :
    RawText :=
  let lengths := if longest then (List.range (text.length + 1)).reverse
    else List.range (text.length + 1)
  if fromEnd then
    match lengths.find? fun length =>
      matchesPattern pattern (text.drop (text.length - length))
    with
    | none => text
    | some length => text.take (text.length - length)
  else
    match lengths.find? fun length => matchesPattern pattern (text.take length) with
    | none => text
    | some length => text.drop length

end DocSamples.Shell
