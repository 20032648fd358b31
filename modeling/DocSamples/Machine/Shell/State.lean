import DocSamples.Machine.Loading
import DocSamples.Machine.Shell.Pattern
import DocSamples.Machine.Shell.Script

/-!
Contract: what a running shell remembers.

Owns:
- variables, parameters and the status of the last command;
- how a script ends before its last line;
- the fields that an expanded word falls into.
-/

namespace DocSamples.Shell

structure State where
  session : Session
  values : List (RawText × RawText)
  name : RawText
  arguments : List RawText
  status : Nat
  line : Nat

/-- How a script ends before its last line. -/
inductive Stop where
  | exit (code : Nat)
  | killed
deriving DecidableEq

abbrev Action := ExceptT Stop (StateM State)

def State.value? (state : State) (name : RawText) : Option RawText :=
  state.values.lookup name

def State.assign (state : State) (name value : RawText) : State :=
  { state with values := (name, value) :: state.values.filter (·.1 != name) }

def State.unset (state : State) (name : RawText) : State :=
  { state with values := state.values.filter (·.1 != name) }

/-- The characters that separate fields. -/
def State.separators (state : State) : RawText :=
  (state.value? "IFS".toList).getD [' ', '\t', '\n']

/-- What stands for the number of the shell's process. -/
def processNumber : Nat := 4242

/-- The value of a parameter, apart from those that stand for all arguments. -/
def State.parameter? (state : State) (name : RawText) : Option RawText :=
  match name with
  | ['#'] => some (decimal state.arguments.length)
  | ['?'] => some (decimal state.status)
  | ['$'] => some (decimal processNumber)
  | ['!'] => none
  | ['-'] => some []
  | ['0'] => some state.name
  | _ =>
    match (String.ofList name).toNat? with
    | some number => state.arguments[number - 1]?
    | none => state.value? name

def print (raw : RawText) : Action Unit :=
  modify fun state => { state with session := state.session.print raw }

/-- Complain about something, as the shell itself does. -/
def complain (wording : RawText) : Action Unit :=
  modify fun state =>
    { state with
      session := state.session.complain
        (state.name ++ ": ".toList ++ decimal state.line ++ ": ".toList ++ wording ++ ['\n']) }

/-- Note the exit code of a command. -/
def finish (status : Nat) : Action Unit :=
  modify fun state => { state with status := status }

/-- What an expansion gives, before it is cut into fields. -/
inductive Atom where
  | letter (letter : Letter)
  | loose (character : Char)
  /-- Keeps a field although it may be empty. -/
  | hold
  /-- Where one argument ends and the next begins. -/
  | border
  /-- Drops a field that is only held. -/
  | vanish
deriving DecidableEq

def atomsOf (quoted : Bool) (value : RawText) : List Atom :=
  if quoted then .hold :: value.map fun character => .letter ⟨character, true⟩
  else value.map .loose

/-- The letters of a word that is not cut into fields. -/
def lettersOf (atoms : List Atom) : List Letter :=
  atoms.filterMap fun atom =>
    match atom with
    | .letter letter => some letter
    | .loose character => some ⟨character, false⟩
    | .border => some ⟨' ', false⟩
    | .hold | .vanish => none

def textOf (atoms : List Atom) : RawText :=
  (lettersOf atoms).map Letter.character

/-- Whether a separator only separates what stands before and after it, however
often it is repeated. -/
def isBlankSeparator (character : Char) : Bool :=
  [' ', '\t', '\n'].contains character

/-- Cut atoms into fields.  `open?` is the field that has been begun, its last
character first, if one has been; `afterBlank` says whether a blank has just ended
one. -/
def fieldsFrom (separators : RawText) (open? : Option RawText) (afterBlank : Bool) :
    List Atom → List RawText
  | [] => (open?.map List.reverse).toList
  | .letter letter :: rest =>
    fieldsFrom separators (some (letter.character :: open?.getD [])) false rest
  | .hold :: rest => fieldsFrom separators (some (open?.getD [])) false rest
  | .vanish :: rest => fieldsFrom separators (open?.filter (!·.isEmpty)) false rest
  | .border :: rest => (open?.map List.reverse).toList ++ fieldsFrom separators none false rest
  | .loose character :: rest =>
    if !separators.contains character then
      fieldsFrom separators (some (character :: open?.getD [])) false rest
    else if isBlankSeparator character then
      (open?.map List.reverse).toList ++
        fieldsFrom separators none (afterBlank || open?.isSome) rest
    else if open?.isNone && afterBlank then
      fieldsFrom separators none false rest
    else
      (open?.getD []).reverse :: fieldsFrom separators none false rest

def fieldsOf (separators : RawText) (atoms : List Atom) : List RawText :=
  fieldsFrom separators none false atoms

end DocSamples.Shell
