import DocSamples.Text.Basic

/-!
Contract: UTF-8, in both directions and for every byte string.

Owns:
- the encoding of texts;
- decoding as a machine that reads one byte at a time, where each maximal
  ill-formed part becomes one replacement character;
- the byte strings that are well-formed.

The machine keeps the part of a character it has read; a byte that cannot go on
with it ends that part as ill-formed and is then read afresh.  A line feed never
goes on with a character, which is why damage stays within its line.
-/

namespace DocSamples.Utf8

def encodeChar (character : Char) : Bytes :=
  let code := character.toNat
  if code < 0x80 then
    [UInt8.ofNat code]
  else if code < 0x800 then
    [UInt8.ofNat (0xC0 + code / 0x40), UInt8.ofNat (0x80 + code % 0x40)]
  else if code < 0x10000 then
    [UInt8.ofNat (0xE0 + code / 0x1000), UInt8.ofNat (0x80 + code / 0x40 % 0x40),
      UInt8.ofNat (0x80 + code % 0x40)]
  else
    [UInt8.ofNat (0xF0 + code / 0x40000), UInt8.ofNat (0x80 + code / 0x1000 % 0x40),
      UInt8.ofNat (0x80 + code / 0x40 % 0x40), UInt8.ofNat (0x80 + code % 0x40)]

def encode (text : Text) : Bytes :=
  text.flatMap encodeChar

/-- What stands for an ill-formed part: U+FFFD. -/
def replacement : Char := '\uFFFD'

/-- A character of which at least one byte is still to come.  The next byte has
to lie between `low` and `high`, every later one between 80 and BF. -/
structure Pending where
  value : Nat
  later : Nat
  low : Nat
  high : Nat
deriving DecidableEq

/-- The outcome of reading a byte at the start of a character. -/
inductive Lead where
  | complete (character : Char)
  | partly (pending : Pending)
  | illFormed
deriving DecidableEq

/-- Read the first byte of a character.  The bounds on the second byte keep out
overlong forms, surrogates and numbers above 10FFFF. -/
def lead (byte : UInt8) : Lead :=
  let code := byte.toNat
  if code < 0x80 then .complete (Char.ofNat code)
  else if code < 0xC2 then .illFormed
  else if code < 0xE0 then .partly ⟨code - 0xC0, 0, 0x80, 0xBF⟩
  else if code = 0xE0 then .partly ⟨0, 1, 0xA0, 0xBF⟩
  else if code = 0xED then .partly ⟨0xD, 1, 0x80, 0x9F⟩
  else if code < 0xF0 then .partly ⟨code - 0xE0, 1, 0x80, 0xBF⟩
  else if code = 0xF0 then .partly ⟨0, 2, 0x90, 0xBF⟩
  else if code < 0xF4 then .partly ⟨code - 0xF0, 2, 0x80, 0xBF⟩
  else if code = 0xF4 then .partly ⟨4, 2, 0x80, 0x8F⟩
  else .illFormed

/-- Read a further byte of a character; `none` if the byte cannot go on with it. -/
def Pending.read? (pending : Pending) (byte : UInt8) : Option Lead :=
  let code := byte.toNat
  if pending.low ≤ code ∧ code ≤ pending.high then
    let value := pending.value * 0x40 + (code - 0x80)
    match pending.later with
    | 0 => some (.complete (Char.ofNat value))
    | later + 1 => some (.partly ⟨value, later, 0x80, 0xBF⟩)
  else
    none

/-- Go on after a byte was read: what it wrote, and what is left open. -/
def Lead.settle : Lead → Text × Option Pending
  | .complete character => ([character], none)
  | .partly pending => ([], some pending)
  | .illFormed => ([replacement], none)

/-- One step of the machine: the characters that a byte completes, and the
character left open after it. -/
def step (open? : Option Pending) (byte : UInt8) : Text × Option Pending :=
  match open? with
  | none => (lead byte).settle
  | some pending =>
    match pending.read? byte with
    | some outcome => outcome.settle
    | none =>
      let afresh := (lead byte).settle
      (replacement :: afresh.1, afresh.2)

/-- Decode from a given state of the machine. -/
def decodeFrom : Option Pending → Bytes → Text
  | none, [] => []
  | some _, [] => [replacement]
  | open?, byte :: bytes =>
    (step open? byte).1 ++ decodeFrom (step open? byte).2 bytes

/-- Decode a byte string; each maximal ill-formed part becomes one U+FFFD. -/
def decode (bytes : Bytes) : Text :=
  decodeFrom none bytes

/-- Decode a well-formed byte string.  A byte string is well-formed exactly when
encoding its decoded text gives it back. -/
def decode? (bytes : Bytes) : Option Text :=
  let text := decode bytes
  if encode text = bytes then some text else none

end DocSamples.Utf8
