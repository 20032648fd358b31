import DocSamples.Machine.Session

/-!
Contract: the texts that the shell's `echo` and `printf` write.

Owns:
- escapes after a backslash;
- formats, their conversions and their use for as long as arguments are left.

Does not own: the commands themselves (`Machine/Shell/Builtin`).
-/

namespace DocSamples.Shell

def octalDigit? (character : Char) : Option Nat :=
  if '0' ≤ character ∧ character ≤ '7' then some (character.toNat - '0'.toNat) else none

/-- The octal digits at the start of a text, at most a given number of them. -/
def octalDigits : (limit : Nat) → RawText → List Nat
  | limit + 1, character :: rest =>
    match octalDigit? character with
    | none => []
    | some digit => digit :: octalDigits limit rest
  | _, _ => []

def octalByte (digits : List Nat) : Char :=
  Char.ofNat (digits.foldl (fun value digit => value * 8 + digit) 0 % 256)

/-- The characters that a letter after a backslash stands for. -/
def controlLetters : List (Char × Char) :=
  [('\\', '\\'), ('a', '\x07'), ('b', '\x08'), ('f', '\x0c'), ('n', '\n'), ('r', '\r'),
    ('t', '\t'), ('v', '\x0b')]

/-- What a backslash with the text after it stands for, and how many characters of
that text belong to it. -/
def escapeIn (text : RawText) : Char × Nat :=
  let digits := octalDigits 3 text
  if !digits.isEmpty then (octalByte digits, digits.length)
  else
    match text.head?.bind (List.lookup · controlLetters) with
    | some character => (character, 1)
    | none => ('\\', 0)

/-- A text with its escapes resolved, and whether it ends the output.  An octal
number has a zero in front here. -/
def resolveEscapes : (skipped : Nat) → RawText → RawText × Bool
  | _, [] => ([], false)
  | skipped + 1, _ :: rest => resolveEscapes skipped rest
  | 0, '\\' :: rest =>
    match rest with
    | 'c' :: _ => ([], true)
    | '0' :: more =>
      let digits := octalDigits 3 more
      let later := resolveEscapes (digits.length + 1) rest
      (octalByte digits :: later.1, later.2)
    | _ =>
      let later := resolveEscapes (escapeIn rest).2 rest
      ((escapeIn rest).1 :: later.1, later.2)
  | 0, character :: rest =>
    let later := resolveEscapes 0 rest
    (character :: later.1, later.2)

def echoed (arguments : List RawText) : RawText :=
  let silent := arguments.head? == some ['-', 'n']
  let (text, ended) := resolveEscapes 0 (joinWith ' ' (if silent then arguments.tail else arguments))
  if silent || ended then text else text ++ ['\n']

/-- How an argument is written into a format. -/
structure Conversion where
  alignLeft : Bool
  fillZeros : Bool
  width : Nat
  precision? : Option Nat
  letter : Char
deriving DecidableEq

inductive FormatItem where
  | literal (character : Char)
  | argument (conversion : Conversion)
deriving DecidableEq

def numberOf (digits : RawText) : Nat :=
  digits.foldl (fun value digit => value * 10 + (digit.toNat - '0'.toNat)) 0

/-- The conversion after a percent sign, and how many characters spell it; nothing
if its letter is missing. -/
def conversionIn? (text : RawText) : Option (Conversion × Nat) :=
  let flags := text.takeWhile ['-', '+', ' ', '0', '#'].contains
  let afterFlags := text.drop flags.length
  let width := afterFlags.takeWhile Char.isDigit
  let afterWidth := afterFlags.drop width.length
  let precision := match afterWidth with
    | '.' :: rest => some (rest.takeWhile Char.isDigit)
    | _ => none
  let size := flags.length + width.length + precision.elim 0 (·.length + 1)
  (text.drop size).head?.map fun letter =>
    (⟨flags.contains '-', flags.contains '0', numberOf width, precision.map numberOf, letter⟩,
      size + 1)

def formatItems : (skipped : Nat) → RawText → List FormatItem
  | _, [] => []
  | skipped + 1, _ :: rest => formatItems skipped rest
  | 0, '\\' :: rest => .literal (escapeIn rest).1 :: formatItems (escapeIn rest).2 rest
  | 0, '%' :: rest =>
    if rest.head? == some '%' then .literal '%' :: formatItems 1 rest
    else
      match conversionIn? rest with
      | none => []
      | some (conversion, size) => .argument conversion :: formatItems size rest
  | 0, character :: rest => .literal character :: formatItems 0 rest

def Conversion.fill (conversion : Conversion) (zeros : Bool) (text : RawText) : RawText :=
  let missing := conversion.width - text.length
  if conversion.alignLeft then text ++ List.replicate missing ' '
  else if zeros && conversion.fillZeros then
    match text with
    | '-' :: digits => '-' :: List.replicate missing '0' ++ digits
    | digits => List.replicate missing '0' ++ digits
  else List.replicate missing ' ' ++ text

/-- The digits of a number in a base given by the letter of a conversion. -/
def digitsFor (letter : Char) (number : Nat) : RawText :=
  if letter == 'o' then Nat.toDigits 8 number
  else if letter == 'x' then Nat.toDigits 16 number
  else if letter == 'X' then (Nat.toDigits 16 number).map Char.toUpper
  else Nat.toDigits 10 number

/-- Whether a character may stand around a number. -/
def isNumberBlank (character : Char) : Bool :=
  [' ', '\t', '\n', '\x0b', '\x0c', '\r'].contains character

/-- The number that an argument spells, with an optional sign and between blanks;
nothing if it spells none.  The empty argument counts as zero. -/
def integer? (argument : RawText) : Option Int :=
  let (negative, unsigned) := match argument.dropWhile isNumberBlank with
    | '-' :: rest => (true, rest)
    | '+' :: rest => (false, rest)
    | rest => (false, rest)
  let digits := unsigned.takeWhile Char.isDigit
  if argument.isEmpty then some 0
  else if digits.isEmpty || !(unsigned.drop digits.length).all isNumberBlank then none
  else some (if negative then -(numberOf digits : Int) else numberOf digits)

def Conversion.write (conversion : Conversion) (argument : RawText) : RawText × Bool :=
  let cut := fun (text : RawText) =>
    match conversion.precision? with
    | none => text
    | some precision => text.take precision
  if conversion.letter == 's' then (conversion.fill false (cut argument), true)
  else if conversion.letter == 'b' then
    (conversion.fill false (cut (resolveEscapes 0 argument).1), true)
  else if conversion.letter == 'c' then (conversion.fill false (argument.take 1), true)
  else
    let number := (integer? argument).getD 0
    let sign := if number < 0 then ['-'] else []
    (conversion.fill true (sign ++ digitsFor conversion.letter number.natAbs),
      (integer? argument).isSome)

/-- Go through the items of a format once: what is written, the arguments that are
left, and whether every argument could be used. -/
def writeItems : List FormatItem → List RawText → RawText × List RawText × Bool
  | [], arguments => ([], arguments, true)
  | .literal character :: items, arguments =>
    let (text, left, fine) := writeItems items arguments
    (character :: text, left, fine)
  | .argument conversion :: items, arguments =>
    let (own, usable) := conversion.write (arguments.head?.getD [])
    let (text, left, fine) := writeItems items arguments.tail
    (own ++ text, left, usable && fine)

/-- Use a format for as long as arguments are left and it takes any. -/
def writeFormat (items : List FormatItem) : (limit : Nat) → List RawText → RawText × Bool
  | 0, _ => ([], true)
  | limit + 1, arguments =>
    let (text, left, fine) := writeItems items arguments
    if left.isEmpty || left.length == arguments.length then (text, fine)
    else
      let (more, alsoFine) := writeFormat items limit left
      (text ++ more, fine && alsoFine)

def formatted (format : RawText) (arguments : List RawText) : RawText × Bool :=
  writeFormat (formatItems 0 format) (arguments.length + 1) arguments

end DocSamples.Shell
