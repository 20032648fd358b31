import DocSamples.Text.Basic

/-!
Contract: the characters that Unicode calls white space.

Owns:
- the property `White_Space` as a predicate;
- texts that hold nothing else, and the removal of such characters from both
  ends of a text.
-/

namespace DocSamples

/-- The Unicode property `White_Space`. -/
def isBlankChar (character : Char) : Bool :=
  let code := character.toNat
  (9 ≤ code && code ≤ 13) || code == 0x20 || code == 0x85 || code == 0xA0 ||
    code == 0x1680 || (0x2000 ≤ code && code ≤ 0x200A) || code == 0x2028 ||
    code == 0x2029 || code == 0x202F || code == 0x205F || code == 0x3000

/-- A text of white space only; the empty text is one. -/
def isBlank (text : Text) : Bool :=
  text.all isBlankChar

def trim (text : Text) : Text :=
  ((text.dropWhile isBlankChar).reverse.dropWhile isBlankChar).reverse

/-- Dropping leaves nothing exactly when every character is dropped. -/
theorem dropBlank_eq_nil_iff (text : Text) :
    text.dropWhile isBlankChar = [] ↔ isBlank text = true := by
  induction text with
  | nil => simp [isBlank]
  | cons head tail inductionHypothesis =>
    cases blank : isBlankChar head
    · simp [blank, isBlank]
    · simp only [List.dropWhile_cons, blank, ↓reduceIte, isBlank, List.all_cons, Bool.true_and]
      exact inductionHypothesis

/-- Trimming leaves nothing exactly of a text of white space. -/
theorem trim_eq_nil_iff (text : Text) : trim text = [] ↔ isBlank text = true := by
  have reversed : ∀ rest : Text, isBlank rest.reverse = isBlank rest := fun rest => by
    simp [isBlank]
  rw [trim, List.reverse_eq_nil_iff, dropBlank_eq_nil_iff, reversed]
  induction text with
  | nil => simp
  | cons head tail inductionHypothesis =>
    cases blank : isBlankChar head
    · simp [blank, isBlank]
    · simpa [blank, isBlank] using inductionHypothesis

end DocSamples
