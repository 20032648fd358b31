import DocSamples.Proofs.Toml.Reader

/-!
Contract: how the values of a document may be spelled, said without a reader.

Owns:
- what may stand between values: blanks, comments, ends of lines;
- texts between quotes on one line, decimal integers, truth values;
- arrays and tables between brackets, nested up to a depth;
- documents whose lines are a bare key, an equals sign and such a value.

Each relation holds of a spelling and of what it stands for.  Spelled differently, the same value
may be had in many ways; nothing here says in which order a reader tries them.

Does not own: strings on several lines, floats, dates, keys with dots or quotes, and headers.
-/

namespace DocSamples.Toml

/-! ## Between values -/

/-- Whether a character is a control, which is written by its number. -/
def isControl (character : Char) : Bool :=
  character.toNat < 0x20 || character.toNat == 0x7F

def AreBlanks (text : Text) : Prop :=
  ∀ character ∈ text, character = ' ' ∨ character = '\t'

instance : DecidablePred AreBlanks := fun _ =>
  decidable_of_iff _ List.all_iff_forall_prop

/-- Whether a character may stand in a comment and, by itself, between quotes. -/
def IsPrinted (character : Char) : Prop :=
  character = '\t' ∨ isControl character = false

instance : DecidablePred IsPrinted := fun character =>
  inferInstanceAs (Decidable (character = '\t' ∨ isControl character = false))

/-- A comment, or nothing. -/
inductive Remark : Text → Prop
  | none : Remark []
  | comment {words : Text} (printed : ∀ character ∈ words, IsPrinted character) :
      Remark ('#' :: words)

inductive LineEnd : Text → Prop
  | lineFeed : LineEnd ['\n']
  | carriageReturn : LineEnd ['\r', '\n']

/-- The part of a line that says nothing. -/
inductive LineTail : Text → Prop
  | mk {blanks remark : Text} (areBlanks : AreBlanks blanks) (isRemark : Remark remark) :
      LineTail (blanks ++ remark)

/-- What may stand around a value between brackets, and before a line: blanks, and lines that say
nothing. -/
inductive Gap : Text → Prop
  | blanks {text : Text} (areBlanks : AreBlanks text) : Gap text
  | line {tail ending rest : Text} (isTail : LineTail tail) (isEnding : LineEnd ending)
      (isGap : Gap rest) : Gap (tail ++ ending ++ rest)

/-! ## Texts -/

def shortEscapes : List (Char × Char) :=
  [('b', '\x08'), ('t', '\t'), ('n', '\n'), ('f', '\x0c'), ('r', '\r'), ('e', '\x1b'), ('"', '"'),
    ('\\', '\\')]

/-- The letters after a backslash that announce the number of a character, and how many digits
it has. -/
def numericEscapes : List (Char × Nat) :=
  [('x', 2), ('u', 4), ('U', 8)]

def hexDigit (upper : Bool) (value : Nat) : Char :=
  if upper then value.digitChar.toUpper else value.digitChar

/-- So many hexadecimal digits, in either case, and their number. -/
inductive SpellsHex : Nat → Text → Nat → Prop
  | nil : SpellsHex 0 [] 0
  | snoc {size : Nat} {digits : Text} {number value : Nat} (upper : Bool)
      (spelled : SpellsHex size digits number) (isDigit : value < 16) :
      SpellsHex (size + 1) (digits ++ [hexDigit upper value]) (number * 16 + value)

inductive SpellsCharacter : Text → Char → Prop
  | printed {character : Char} (isPrinted : IsPrinted character) (noQuote : character ≠ '"')
      (noBackslash : character ≠ '\\') : SpellsCharacter [character] character
  | short {letter character : Char} (known : (letter, character) ∈ shortEscapes) :
      SpellsCharacter ['\\', letter] character
  | numeric {letter character : Char} {size : Nat} {digits : Text}
      (known : (letter, size) ∈ numericEscapes)
      (spelled : SpellsHex size digits character.toNat) :
      SpellsCharacter ('\\' :: letter :: digits) character

inductive SpellsCharacters : Text → Text → Prop
  | nil : SpellsCharacters [] []
  | cons {spelling rest text : Text} {character : Char}
      (first : SpellsCharacter spelling character) (others : SpellsCharacters rest text) :
      SpellsCharacters (spelling ++ rest) (character :: text)

/-- A text between quotes, on one line. -/
inductive SpellsText : Text → Text → Prop
  | basic {inside text : Text} (spelled : SpellsCharacters inside text) :
      SpellsText ('"' :: (inside ++ ['"'])) text
  | literal {text : Text} (printed : ∀ character ∈ text, IsPrinted character ∧ character ≠ '\'') :
      SpellsText ('\'' :: (text ++ ['\''])) text

/-! ## Values without parts -/

/-- A whole number: groups of decimal digits, and no zero in front of others. -/
inductive SpellsWhole : Text → Nat → Prop
  | mk {groups : List Text} (nonempty : groups ≠ [])
      (digits : ∀ group ∈ groups, group ≠ [] ∧ ∀ character ∈ group, character.isDigit = true)
      (noZero : (joinWith '_' groups).head? = some '0' → joinWith '_' groups = ['0']) :
      SpellsWhole (joinWith '_' groups) (Nat.ofDigitChars 10 groups.flatten 0)

/-- A decimal integer, with a sign or without one. -/
inductive SpellsInteger : Text → Int → Prop
  | unsigned {text : Text} {number : Nat} (spelled : SpellsWhole text number) :
      SpellsInteger text number
  | plus {text : Text} {number : Nat} (spelled : SpellsWhole text number) :
      SpellsInteger ('+' :: text) number
  | minus {text : Text} {number : Nat} (spelled : SpellsWhole text number) :
      SpellsInteger ('-' :: text) (-number)

/-- A value that is neither an array nor a table.  Integers are those of 64 bits with a sign. -/
inductive SpellsScalar : Text → Value → Prop
  | text {spelling text : Text} (spelled : SpellsText spelling text) :
      SpellsScalar spelling (.text text)
  | integer {spelling : Text} {value : Int} (spelled : SpellsInteger spelling value)
      (least : -Int.pow 2 63 ≤ value) (greatest : value < Int.pow 2 63) :
      SpellsScalar spelling (.integer value)
  | yes : SpellsScalar ['t', 'r', 'u', 'e'] (.boolean true)
  | no : SpellsScalar ['f', 'a', 'l', 's', 'e'] (.boolean false)

/-! ## Values with parts -/

/-- Parts up to a closing bracket, with a comma behind each.  The last may lack it. -/
inductive SpellsParts {Part : Type} (SpellsPart : Text → Part → Prop) (closing : Char) :
    Text → List Part → Prop
  | none {gap : Text} (isGap : Gap gap) : SpellsParts SpellsPart closing (gap ++ [closing]) []
  | last {before spelling after : Text} {part : Part} (isBefore : Gap before)
      (spelled : SpellsPart spelling part) (isAfter : Gap after) :
      SpellsParts SpellsPart closing (before ++ spelling ++ after ++ [closing]) [part]
  | more {before spelling after rest : Text} {part : Part} {parts : List Part}
      (isBefore : Gap before) (spelled : SpellsPart spelling part) (isAfter : Gap after)
      (others : SpellsParts SpellsPart closing rest parts) :
      SpellsParts SpellsPart closing (before ++ spelling ++ after ++ ',' :: rest) (part :: parts)

/-- A bare key, an equals sign and a value. -/
inductive SpellsEntry (SpellsValue : Text → Value → Prop) : Text → Text × Value → Prop
  | mk {key before after spelling : Text} {value : Value} (bare : IsBare key)
      (isBefore : AreBlanks before) (isAfter : AreBlanks after)
      (spelled : SpellsValue spelling value) :
      SpellsEntry SpellsValue (key ++ before ++ '=' :: (after ++ spelling)) (key, value)

/-- A value, given how those that lie directly within it are spelled.  The keys of a table differ
from each other. -/
inductive SpellsNested (SpellsInner : Text → Value → Prop) : Text → Value → Prop
  | scalar {spelling : Text} {value : Value} (spelled : SpellsScalar spelling value) :
      SpellsNested SpellsInner spelling value
  | array {inside : Text} {items : List Value}
      (spelled : SpellsParts SpellsInner ']' inside items) :
      SpellsNested SpellsInner ('[' :: inside) (.array items)
  | table {inside : Text} {entries : Entries}
      (spelled : SpellsParts (SpellsEntry SpellsInner) '\x7d' inside entries)
      (distinct : (entries.map Prod.fst).Nodup) :
      SpellsNested SpellsInner ('\x7b' :: inside) (.table .inline entries)

/-- A value in which others lie at most so deep. -/
def Spells : (depth : Nat) → Text → Value → Prop
  | 0 => SpellsScalar
  | depth + 1 => SpellsNested (Spells depth)

/-! ## Documents -/

/-- A document with a line for each entry, and lines that say nothing.  The last line may lack its
end. -/
inductive SpellsDocument (depth : Nat) : Text → Entries → Prop
  | nil {gap remark : Text} (isGap : Gap gap) (isRemark : Remark remark) :
      SpellsDocument depth (gap ++ remark) []
  | last {gap line tail : Text} {entry : Text × Value} (isGap : Gap gap)
      (spelled : SpellsEntry (Spells depth) line entry) (isTail : LineTail tail) :
      SpellsDocument depth (gap ++ line ++ tail) [entry]
  | more {gap line tail ending rest : Text} {entry : Text × Value} {entries : Entries}
      (isGap : Gap gap) (spelled : SpellsEntry (Spells depth) line entry) (isTail : LineTail tail)
      (isEnding : LineEnd ending) (others : SpellsDocument depth rest entries) :
      SpellsDocument depth (gap ++ line ++ tail ++ ending ++ rest) (entry :: entries)

end DocSamples.Toml
