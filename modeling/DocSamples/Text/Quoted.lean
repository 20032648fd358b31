import DocSamples.Text.Word
import DocSamples.Text.PrintTable

/-!
Contract: texts between double quotes, written so that every character can be
seen.

Owns:
- the escape of one character;
- the quoted form of a text.

A quote, a backslash and the usual controls have short escapes.  A character
that would not show, or that would be drawn onto its neighbour, is written by its
number in hexadecimal.
-/

namespace DocSamples.Quoted

/-- The hexadecimal digits of a number, without leading zeros. -/
def hexDigits (number : Nat) : Text :=
  Nat.toDigits 16 number

def isVisible (character : Char) : Bool :=
  !inRanges graphemeExtendRanges character.toNat && !inRanges unprintableRanges character.toNat

def escape (character : Char) : Text :=
  if character = '"' then ['\\', '"']
  else if character = '\\' then ['\\', '\\']
  else if character = '\n' then ['\\', 'n']
  else if character = '\r' then ['\\', 'r']
  else if character = '\t' then ['\\', 't']
  else if character = '\x00' then ['\\', '0']
  else if isVisible character then [character]
  else ['\\', 'u', '\x7b'] ++ hexDigits character.toNat ++ ['\x7d']

def quote (text : Text) : Text :=
  ['"'] ++ text.flatMap escape ++ ['"']

end DocSamples.Quoted
