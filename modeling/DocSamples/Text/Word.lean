import DocSamples.Text.Basic
import DocSamples.Text.WordTable

/-!
Contract: whole words in a text.

Owns:
- word characters, by the table of `Text/WordTable`;
- the test whether a text holds a given word as a whole word.

An occurrence is a whole word when no word character touches it on either side.
Every occurrence is looked at, so one that fails does not hide a later one.
-/

namespace DocSamples

def inRanges (ranges : List (Nat × Nat)) (code : Nat) : Bool :=
  ranges.any fun range => range.1 ≤ code && code ≤ range.2

/-- A word character of Unicode. -/
def isWordChar (character : Char) : Bool :=
  inRanges wordRanges character.toNat

def startsOffWord : Text → Bool
  | [] => true
  | character :: _ => !isWordChar character

/-- Whether a text, which follows the character `before?`, starts with `word` as
a whole word. -/
def startsWithWord (word : Text) (before? : Option Char) (text : Text) : Bool :=
  word.isPrefixOf text && startsOffWord before?.toList &&
    startsOffWord (text.drop word.length)

/-- Whether a text, which follows the character `before?`, holds `word` as a
whole word. -/
def hasWordAfter (word : Text) : Option Char → Text → Bool
  | before?, [] => startsWithWord word before? []
  | before?, character :: text =>
    startsWithWord word before? (character :: text) ||
      hasWordAfter word (some character) text

/-- Whether a text holds `word` as a whole word. -/
def hasWord (word text : Text) : Bool :=
  hasWordAfter word none text

end DocSamples
