import DocSamples.Proofs.Text.Word
import Mathlib.Data.List.Basic

/-!
Contract: what stands around the whole words of a text.

Owns:
- word boundaries, as positions with a word character at exactly one side;
- whole words as what stands between two boundaries;
- the whole words of texts with a character between them that is no word character.

A word here is made of word characters only and is not empty, so a boundary stands at either
end of it exactly if it goes on no further there, and no separator is part of it.
-/

namespace DocSamples

/-! ## Boundaries -/

def wordBefore (text : Text) : (position : Nat) → Bool
  | 0 => false
  | position + 1 => text[position]?.any isWordChar

def wordAfter (text : Text) (position : Nat) : Bool :=
  text[position]?.any isWordChar

/-- Whether a word character stands at exactly one side of a position; nothing stands before
the start of a text or after its end. -/
def isWordBoundary (text : Text) (position : Nat) : Bool :=
  wordBefore text position != wordAfter text position

theorem isWordBoundary_append (front back : Text) :
    isWordBoundary (front ++ back) front.length =
      (front.getLast?.any isWordChar != back.head?.any isWordChar) := by
  have after : wordAfter (front ++ back) front.length = back.head?.any isWordChar := by
    rw [wordAfter, List.getElem?_append_right (Nat.le_refl _), Nat.sub_self,
      List.head?_eq_getElem?]
  have before : wordBefore (front ++ back) front.length = front.getLast?.any isWordChar := by
    rcases List.eq_nil_or_concat front with rfl | ⟨others, last, rfl⟩
    · rfl
    · simp [wordBefore]
  rw [isWordBoundary, before, after]

private theorem any_eq_false_iff_forall_mem (character? : Option Char) :
    character?.any isWordChar = false ↔
      ∀ character ∈ character?, isWordChar character = false := by
  cases character? with
  | none => simp
  | some character => simp

section SolidWord

variable {word : Text}

private theorem isWordBoundary_start (nonempty : word ≠ [])
    (solid : ∀ character ∈ word, isWordChar character = true) (front back : Text) :
    isWordBoundary (front ++ word ++ back) front.length =
      !front.getLast?.any isWordChar := by
  have starts : (word ++ back).head?.any isWordChar = true := by
    obtain ⟨first, others, rfl⟩ := List.exists_cons_of_ne_nil nonempty
    exact solid first List.mem_cons_self
  rw [List.append_assoc, isWordBoundary_append, starts, Bool.bne_true]

private theorem isWordBoundary_end (nonempty : word ≠ [])
    (solid : ∀ character ∈ word, isWordChar character = true) (front back : Text) :
    isWordBoundary (front ++ word ++ back) (front.length + word.length) =
      !back.head?.any isWordChar := by
  have ends : (front ++ word).getLast?.any isWordChar = true := by
    rw [List.getLast?_append_of_ne_nil _ nonempty, List.getLast?_eq_some_getLast nonempty]
    exact solid _ (List.getLast_mem nonempty)
  rw [← List.length_append, isWordBoundary_append, ends, Bool.true_bne]

/-- A whole word is a word that stands between two boundaries. -/
theorem holdsWord_iff_boundaries (nonempty : word ≠ [])
    (solid : ∀ character ∈ word, isWordChar character = true) (text : Text) :
    HoldsWord word text ↔
      ∃ position, word <+: text.drop position ∧ isWordBoundary text position = true ∧
        isWordBoundary text (position + word.length) = true := by
  constructor
  · rintro ⟨front, back, rfl, before, after⟩
    refine ⟨front.length, ?_, ?_, ?_⟩
    · rw [List.append_assoc, List.drop_left]
      exact List.prefix_append word back
    · rw [isWordBoundary_start nonempty solid, Bool.not_eq_true', any_eq_false_iff_forall_mem]
      exact before
    · rw [isWordBoundary_end nonempty solid, Bool.not_eq_true', any_eq_false_iff_forall_mem]
      exact after
  · rintro ⟨position, ⟨back, shape⟩, before, after⟩
    have inside : position ≤ text.length := by
      by_contra beyond
      rw [List.drop_eq_nil_of_le (by omega)] at shape
      exact nonempty (List.append_eq_nil_iff.1 shape).1
    obtain ⟨front, rfl, rfl⟩ : ∃ front : Text, front.length = position ∧
        front ++ word ++ back = text := by
      refine ⟨text.take position, List.length_take_of_le inside, ?_⟩
      rw [List.append_assoc, shape, List.take_append_drop]
    rw [isWordBoundary_start nonempty solid, Bool.not_eq_true',
      any_eq_false_iff_forall_mem] at before
    rw [isWordBoundary_end nonempty solid, Bool.not_eq_true', any_eq_false_iff_forall_mem] at after
    exact ⟨front, back, rfl, before, after⟩

/-! ## Separators -/

variable {separator : Char}

/-- Two texts with a separator between them hold a whole word exactly if one of them does. -/
theorem holdsWord_append_separator (solid : ∀ character ∈ word, isWordChar character = true)
    (off : isWordChar separator = false) (front back : Text) :
    HoldsWord word (front ++ separator :: back) ↔
      HoldsWord word front ∨ HoldsWord word back := by
  have outside : separator ∉ word := by
    intro inside
    rw [solid separator inside] at off
    exact Bool.false_ne_true off.symm
  constructor
  · rintro ⟨left, right, shape, before, after⟩
    -- The separator stands before the word or after it, for it is no part of the word.
    rcases append_cons_eq_append shape with ⟨tail, inLeft, rfl⟩ | ⟨middle, rfl, rfl⟩
    · rcases append_cons_eq_append inLeft.symm with ⟨others, rfl, rfl⟩ | ⟨middle, _, rfl⟩
      · right
        refine ⟨others, right, rfl, fun character last => before character ?_, after⟩
        rw [List.getLast?_append, List.getLast?_cons, Option.mem_def.1 last]
        rfl
      · exact absurd (by simp) outside
    · left
      refine ⟨left, middle, rfl, before, fun character first => after character ?_⟩
      rw [List.head?_append, Option.mem_def.1 first]
      rfl
  · rintro (⟨left, right, rfl, before, after⟩ | ⟨left, right, rfl, before, after⟩)
    · refine ⟨left, right ++ separator :: back, by simp, before, ?_⟩
      intro character first
      cases right with
      | nil =>
          obtain rfl : separator = character := Option.some.inj first
          exact off
      | cons head tail => exact after character first
    · refine ⟨front ++ separator :: left, right, by simp, ?_, after⟩
      intro character last
      rw [List.getLast?_append_of_ne_nil _ (List.cons_ne_nil _ _), List.getLast?_cons] at last
      cases ends : left.getLast? with
      | none =>
          rw [ends] at last
          obtain rfl : separator = character := Option.some.inj last
          exact off
      | some final =>
          rw [ends] at last
          exact before character (ends.trans last)

/-- Texts that each end in a separator hold a whole word together exactly if one of them
does. -/
theorem holdsWord_flatMap_terminated (nonempty : word ≠ [])
    (solid : ∀ character ∈ word, isWordChar character = true)
    (off : isWordChar separator = false) (pieces : List Text) :
    HoldsWord word (pieces.flatMap (· ++ [separator])) ↔
      ∃ piece ∈ pieces, HoldsWord word piece := by
  induction pieces with
  | nil =>
      constructor
      · rintro ⟨front, back, shape, _⟩
        have nothing : front ++ word = [] := (List.append_eq_nil_iff.1 shape.symm).1
        exact absurd (List.append_eq_nil_iff.1 nothing).2 nonempty
      · rintro ⟨piece, member, _⟩
        exact absurd member List.not_mem_nil
  | cons piece pieces inductionHypothesis =>
      have shape : (piece :: pieces).flatMap (· ++ [separator]) =
          piece ++ separator :: pieces.flatMap (· ++ [separator]) := by
        simp
      rw [shape, holdsWord_append_separator solid off, inductionHypothesis,
        List.exists_mem_cons_iff]

end SolidWord

end DocSamples
