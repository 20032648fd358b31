import DocSamples.Proofs.Text.PropertyTable
import DocSamples.Text.Word

/-!
Contract: word characters by their properties.

Owns:
- the properties that make a word character (`WordProperty`);
- merging tables of ranges, and joining ranges that touch, without a change to what lies in
  them;
- a word character is one that has one of the properties.

The table of word characters is one list of ranges as large as they can be, and the tables of
the properties overlap.  Merged in order and joined where they touch, they are that list.
-/

namespace DocSamples

/-! ## Properties -/

/-- The properties that make a word character. -/
inductive WordProperty where
  | alphabetic
  | mark
  | decimalDigit
  | connector
  | joinControl
deriving DecidableEq, Repr

namespace WordProperty

def ranges : WordProperty → List (Nat × Nat)
  | .alphabetic => alphabeticRanges
  | .mark => markRanges
  | .decimalDigit => decimalRanges
  | .connector => connectorRanges
  | .joinControl => joinControlRanges

def holds (property : WordProperty) (character : Char) : Bool :=
  inRanges property.ranges character.toNat

def all : List WordProperty :=
  [.alphabetic, .mark, .decimalDigit, .connector, .joinControl]

private theorem mem_all (property : WordProperty) : property ∈ all := by
  cases property <;> decide

end WordProperty

/-! ## Tables of ranges -/

theorem inRanges_cons (range : Nat × Nat) (ranges : List (Nat × Nat)) (code : Nat) :
    inRanges (range :: ranges) code =
      ((range.1 ≤ code && code ≤ range.2) || inRanges ranges code) :=
  List.any_cons

/-- Put a range among others by its start; what comes behind it is merged by `mergeRest`. -/
def mergeFirst (range : Nat × Nat) (mergeRest : List (Nat × Nat) → List (Nat × Nat)) :
    List (Nat × Nat) → List (Nat × Nat)
  | [] => range :: mergeRest []
  | first :: others =>
    if range.1 ≤ first.1 then range :: mergeRest (first :: others)
    else first :: mergeFirst range mergeRest others

/-- Two tables as one, by the starts of the ranges. -/
def mergeRanges : List (Nat × Nat) → List (Nat × Nat) → List (Nat × Nat)
  | [], others => others
  | range :: ranges, others => mergeFirst range (mergeRanges ranges) others

/-- Put a range in front of a table, and join it with the ranges that start in it or right
behind it. -/
def joinRange (range : Nat × Nat) : List (Nat × Nat) → List (Nat × Nat)
  | [] => [range]
  | first :: ranges =>
    if range.1 ≤ first.1 ∧ first.1 ≤ range.2 + 1 then
      joinRange (range.1, max range.2 first.2) ranges
    else range :: first :: ranges

private theorem inRanges_mergeRanges (ranges others : List (Nat × Nat)) (code : Nat) :
    inRanges (mergeRanges ranges others) code =
      (inRanges ranges code || inRanges others code) := by
  induction ranges generalizing others with
  | nil => rfl
  | cons range ranges ofRest =>
      rw [mergeRanges]
      -- The first range moves past those of the others that start before it.
      induction others with
      | nil => rw [mergeFirst, inRanges_cons, ofRest, inRanges_cons, Bool.or_assoc]
      | cons first others ofOthers =>
          rw [mergeFirst]
          split
          · rw [inRanges_cons, ofRest, inRanges_cons range, Bool.or_assoc]
          · rw [inRanges_cons, ofOthers, inRanges_cons first]
            ac_rfl

private theorem inRanges_joinRange (range : Nat × Nat) (ranges : List (Nat × Nat)) (code : Nat) :
    inRanges (joinRange range ranges) code = inRanges (range :: ranges) code := by
  induction ranges generalizing range with
  | nil => rfl
  | cons first ranges inductionHypothesis =>
      rw [joinRange]
      split
      next touch =>
        rw [inductionHypothesis, inRanges_cons, inRanges_cons, inRanges_cons, ← Bool.or_assoc]
        congr 1
        rw [Bool.eq_iff_iff]
        simp only [Bool.or_eq_true, Bool.and_eq_true, decide_eq_true_eq]
        omega
      next => rfl

private theorem inRanges_foldr_joinRange (ranges : List (Nat × Nat)) (code : Nat) :
    inRanges (ranges.foldr joinRange []) code = inRanges ranges code := by
  induction ranges with
  | nil => rfl
  | cons range ranges inductionHypothesis =>
      rw [List.foldr_cons, inRanges_joinRange, inRanges_cons, inRanges_cons,
        inductionHypothesis]

/-- The tables of several properties as one. -/
def mergedRanges (properties : List WordProperty) : List (Nat × Nat) :=
  properties.foldr (fun property merged => mergeRanges property.ranges merged) []

private theorem inRanges_mergedRanges (properties : List WordProperty) (code : Nat) :
    inRanges (mergedRanges properties) code =
      properties.any fun property => inRanges property.ranges code := by
  induction properties with
  | nil => rfl
  | cons property properties inductionHypothesis =>
      rw [mergedRanges, List.foldr_cons, inRanges_mergeRanges, List.any_cons]
      exact congrArg _ inductionHypothesis

/-! ## Word characters -/

private theorem joined_mergedRanges :
    (mergedRanges WordProperty.all).foldr joinRange [] = wordRanges := by
  decide +kernel

/-- A word character is one that is alphabetic, a mark, a decimal digit, a connecting
punctuation mark or a control of joining. -/
theorem isWordChar_iff (character : Char) :
    isWordChar character = true ↔
      ∃ property : WordProperty, property.holds character = true := by
  rw [isWordChar, ← joined_mergedRanges, inRanges_foldr_joinRange, inRanges_mergedRanges,
    List.any_eq_true]
  constructor
  · rintro ⟨property, _, holds⟩
    exact ⟨property, holds⟩
  · rintro ⟨property, holds⟩
    exact ⟨property, property.mem_all, holds⟩

theorem isWordChar_eq_false_iff (character : Char) :
    isWordChar character = false ↔
      ¬ ∃ property : WordProperty, property.holds character = true := by
  rw [← isWordChar_iff, Bool.not_eq_true]

end DocSamples
