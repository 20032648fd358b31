import DocSamples.Text.Basic

/-!
Contract: the arguments of a command line, one by one.

Owns:
- telling options from other arguments by how they are spelled;
- what a command line asks for.

Does not own: which options there are.
-/

namespace DocSamples.CommandLine

inductive Argument where
  | terminator
  | long (name : Text) (value? : Option Text)
  | letters (first : Char) (more : Text)
  /-- Anything else, among it the empty argument and a single dash. -/
  | plain
deriving DecidableEq

def Argument.ofText : Text → Argument
  | ['-', '-'] => .terminator
  | '-' :: '-' :: spelling =>
    let name := spelling.takeWhile (· != '=')
    .long name
      (if name.length < spelling.length then some (spelling.drop (name.length + 1)) else none)
  | '-' :: first :: more => .letters first more
  | _ => .plain

inductive Request (α : Type) where
  | run (settings : α)
  | version
  | help
  | misuse
deriving DecidableEq

/-- What the options that every command line has ask for, by their long names. -/
def commonLong? {α : Type} (name : Text) : Option (Request α) :=
  if name = "help".toList then some .help
  else if name = "version".toList then some .version
  else none

def commonLetter? {α : Type} : Char → Option (Request α)
  | 'h' => some .help
  | 'V' => some .version
  | _ => none

end DocSamples.CommandLine
