import DocSamples.Machine.Session

/-!
Contract: what a shell script says, once it has been read.

Owns:
- words and the expansions in them;
- commands and how they are put together.

Does not own: how scripts are spelled (`Machine/Shell/Reader`) or what they do
(`Machine/Shell/Evaluator`).
-/

namespace DocSamples.Shell

/-- What is used in place of a parameter that has no value. -/
inductive Fallback where
  | substitute
  /-- The word is used instead and becomes the value. -/
  | assign
  /-- The word is used only if there is a value. -/
  | alternative
deriving DecidableEq, Repr

mutual

/-- A part of a word.  `quoted` says whether it stands between quotes. -/
inductive Piece where
  | literal (text : RawText) (quoted : Bool)
  | parameter (name : RawText) (use : Use) (quoted : Bool)
  | substitution (script : List Command) (quoted : Bool)
  | arithmetic (expression : List Piece) (quoted : Bool)

/-- What an expansion makes of the value of its parameter. -/
inductive Use where
  | value
  | length
  | trim (fromEnd longest : Bool) (pattern : List Piece)
  | otherwise (fallback : Fallback) (emptyToo : Bool) (word : List Piece)

inductive Redirect where
  | toFile (errorOutput keep : Bool) (target : List Piece)
  | fromFile (target : List Piece)
  | join (errorOutput : Bool)

inductive Assignment where
  | assign (name : RawText) (value : List Piece)

inductive Command where
  | simple (line : Nat) (assignments : List Assignment) (words : List (List Piece))
      (redirects : List Redirect)
  | pipeline (first second : Command)
  | negated (command : Command)
  /-- The second runs only if the first succeeds. -/
  | both (first second : Command)
  /-- The second runs only if the first fails. -/
  | either (first second : Command)
  | group (body : List Command)
  | subshell (body : List Command)
  | redirected (command : Command) (redirects : List Redirect)
  | branch (condition body otherwise : List Command)
  | loop (whileTrue : Bool) (condition body : List Command)
  | each (name : RawText) (words : List (List Piece)) (body : List Command)
  | choose (word : List Piece) (arms : List Arm)

inductive Arm where
  | arm (patterns : List (List Piece)) (body : List Command)

end

abbrev Word := List Piece

/-- A script as far as it can be read, and the line at which it cannot, if there
is one. -/
structure Script where
  commands : List Command
  fault? : Option Nat

end DocSamples.Shell
