import DocSamples.Toml.Value

/-!
Contract: the values of TOML that are written without quotes or brackets.

Owns:
- numbers, with their underscores, bases and limits;
- dates and times, each of whose parts has to be in range;
- which of these a text spells, if it spells one.
-/

namespace DocSamples.Toml

/-- The digits of a number without its underscores, each of which has to stand
between two digits. -/
def digits? (isDigit : Char → Bool) (spelling : Text) : Option Text :=
  let groups := splitAt '_' spelling
  if groups.all (fun group => !group.isEmpty && group.all isDigit) then some groups.flatten
  else none

def numberIn (base : Nat) (digits : Text) : Nat :=
  digits.foldl
    (fun value digit =>
      value * base +
        (if digit.isDigit then digit.toNat - '0'.toNat
          else if digit.isLower then digit.toNat - 'a'.toNat + 10
          else digit.toNat - 'A'.toNat + 10))
    0

def isOctalDigit (character : Char) : Bool :=
  '0' ≤ character && character ≤ '7'

def isBinaryDigit (character : Char) : Bool :=
  character == '0' || character == '1'

def isHexDigit (character : Char) : Bool :=
  character.isDigit || ('a' ≤ character && character ≤ 'f') ||
    ('A' ≤ character && character ≤ 'F')

/-- The decimal digits of a whole number, which has no zero in front of others. -/
def wholeDigits? (spelling : Text) : Option Text :=
  if spelling.head? == some '0' && spelling != ['0'] then none
  else digits? Char.isDigit spelling

/-- A sign and what follows it; whether the sign is a minus. -/
def splitSign : Text → Bool × Text
  | '-' :: rest => (true, rest)
  | '+' :: rest => (false, rest)
  | text => (false, text)

def integerOf? (spelling : Text) : Option Int :=
  match spelling with
  | '0' :: 'x' :: rest => (digits? isHexDigit rest).map fun digits => Int.ofNat (numberIn 16 digits)
  | '0' :: 'o' :: rest =>
    (digits? isOctalDigit rest).map fun digits => Int.ofNat (numberIn 8 digits)
  | '0' :: 'b' :: rest =>
    (digits? isBinaryDigit rest).map fun digits => Int.ofNat (numberIn 2 digits)
  | _ =>
    let (negative, whole) := splitSign spelling
    (wholeDigits? whole).map fun digits =>
      if negative then -Int.ofNat (numberIn 10 digits) else Int.ofNat (numberIn 10 digits)

/-- Whether an integer fits into 128 bits, with a sign or without one. -/
def isWithinLimits (value : Int) : Bool :=
  -Int.pow 2 127 ≤ value && value < Int.pow 2 128

/-- The least number that is too large for a float of 64 bits. -/
def floatBound : Nat := Nat.pow 2 1024 - Nat.pow 2 970

/-- Whether decimal digits, followed by as many zeros as the exponent says, are too
large for a float.  Numbers of more than 309 digits are, and those of fewer are not. -/
def overflows (digits : Text) (exponent : Int) : Bool :=
  let value := numberIn 10 digits
  let size : Int := Int.ofNat (Nat.toDigits 10 value).length + exponent
  if value = 0 ∨ size < 309 then false
  else if 309 < size then true
  else
    match exponent with
    | .ofNat zeros => decide (floatBound ≤ value * Nat.pow 10 zeros)
    | .negSucc places => decide (floatBound * Nat.pow 10 (places + 1) ≤ value)

def exponentOf? (spelling : Text) : Option Int :=
  let (negative, rest) := splitSign spelling
  (digits? Char.isDigit rest).map fun digits =>
    if negative then -Int.ofNat (numberIn 10 digits) else Int.ofNat (numberIn 10 digits)

def cutExponent (spelling : Text) : Text × Option Text :=
  let mantissa := spelling.takeWhile fun character => character != 'e' && character != 'E'
  (mantissa,
    if mantissa.length < spelling.length then some (spelling.drop (mantissa.length + 1)) else none)

/-- The digits of a float without its sign, and the exponent that they are to be taken
with. -/
def floatParts? (spelling : Text) : Option (Text × Int) :=
  let (mantissa, exponent?) := cutExponent spelling
  let exponent := exponent?.elim (some 0) exponentOf?
  match splitAt '.' mantissa with
  | [whole] =>
    if exponent?.isNone then none
    else
      match wholeDigits? whole, exponent with
      | some digits, some exponent => some (digits, exponent)
      | _, _ => none
  | [whole, fraction] =>
    match wholeDigits? whole, digits? Char.isDigit fraction, exponent with
    | some digits, some places, some exponent =>
      some (digits ++ places, exponent - Int.ofNat places.length)
    | _, _, _ => none
  | _ => none

def isFloat (spelling : Text) : Bool :=
  let (_, unsigned) := splitSign spelling
  unsigned == ['i', 'n', 'f'] || unsigned == ['n', 'a', 'n'] ||
    match floatParts? unsigned with
    | none => false
    | some (digits, exponent) => !overflows digits exponent

/-- A number of exactly so many digits at the start of a text, and what follows it. -/
def fixedNumber? (size : Nat) (text : Text) : Option (Nat × Text) :=
  let digits := text.take size
  if digits.length = size ∧ digits.all Char.isDigit then
    some (numberIn 10 digits, text.drop size)
  else
    none

/-- A text without the character at its start, which has to be a given one. -/
def after? (expected : Char) : Text → Option Text
  | character :: rest => if character == expected then some rest else none
  | [] => none

def isLeapYear (year : Nat) : Bool :=
  year % 4 == 0 && (year % 100 != 0 || year % 400 == 0)

def daysIn (year month : Nat) : Nat :=
  if month == 2 then (if isLeapYear year then 29 else 28)
  else if [4, 6, 9, 11].contains month then 30
  else 31

def afterDate? (text : Text) : Option Text := do
  let (year, afterYear) ← fixedNumber? 4 text
  let (month, afterMonth) ← fixedNumber? 2 (← after? '-' afterYear)
  let (day, rest) ← fixedNumber? 2 (← after? '-' afterMonth)
  if 1 ≤ month ∧ month ≤ 12 ∧ 1 ≤ day ∧ day ≤ daysIn year month then some rest else none

/-- What follows the fraction of a second at the start of a text, if there is one. -/
def afterFraction? : Text → Option Text
  | '.' :: rest =>
    if rest.head?.any Char.isDigit then some (rest.dropWhile Char.isDigit) else none
  | text => some text

/-- What follows the time at the start of a text.  Its seconds may be missing. -/
def afterTime? (text : Text) : Option Text := do
  let (hour, afterHour) ← fixedNumber? 2 text
  let (minute, afterMinute) ← fixedNumber? 2 (← after? ':' afterHour)
  if 23 < hour ∨ 59 < minute then
    none
  else
    match after? ':' afterMinute with
    | none => some afterMinute
    | some seconds =>
      let (second, rest) ← fixedNumber? 2 seconds
      if 60 < second then none else afterFraction? rest

/-- What follows the offset from the universal time at the start of a text, if there
is one. -/
def afterOffset? : Text → Option Text
  | 'Z' :: rest | 'z' :: rest => some rest
  | '+' :: rest | '-' :: rest => do
    let (hour, afterHour) ← fixedNumber? 2 rest
    let (minute, afterMinute) ← fixedNumber? 2 (← after? ':' afterHour)
    if 23 < hour ∨ 59 < minute then none else some afterMinute
  | text => some text

def joinsDateAndTime (character : Char) : Bool :=
  character == 'T' || character == 't' || character == ' '

/-- Whether a text spells a date, a time, or a date with a time. -/
def isMoment (spelling : Text) : Bool :=
  match afterDate? spelling with
  | some [] => true
  | some (joint :: time) =>
    joinsDateAndTime joint && (afterTime? time).bind afterOffset? == some []
  | none => afterTime? spelling == some []

def scalarOf? (spelling : Text) : Option Value :=
  if spelling = "true".toList then some (.boolean true)
  else if spelling = "false".toList then some (.boolean false)
  else
    match integerOf? spelling with
    | some value => if isWithinLimits value then some (.integer value) else none
    | none =>
      if isFloat spelling then some (.float spelling)
      else if isMoment spelling then some (.moment spelling)
      else none

def isScalarCharacter (character : Char) : Bool :=
  character.isAlphanum || ['+', '-', '_', '.', ':'].contains character

/-- The characters at the start of a text that spell a value together.  A blank
between a date and a digit joins a date and a time. -/
def scalarSpelling (text : Text) : Text :=
  let first := text.takeWhile isScalarCharacter
  let rest := text.drop first.length
  if afterDate? first == some [] && rest.head? == some ' ' && (rest.drop 1).head?.any Char.isDigit
  then first ++ ' ' :: (rest.drop 1).takeWhile isScalarCharacter
  else first

/-- Read a value without quotes or brackets. -/
def scalar? (text : Text) : Option (Value × Text) :=
  let spelling := scalarSpelling text
  (scalarOf? spelling).map fun value => (value, text.drop spelling.length)

end DocSamples.Toml
