import DocSamples.Sample.Mode

/-!
Contract: where a text holds a whole word.

Owns:
- whole words, as a place in the text with no word character at either side (`HoldsWord`);
- the search for one, which finds every such place;
- the mode of a program, by the word `input`.
-/

namespace DocSamples

/-- Whether a text holds a word as a whole word: somewhere the word stands, and neither right
before it nor right after it stands a word character. -/
def HoldsWord (word text : Text) : Prop :=
  ∃ front back, text = front ++ word ++ back ∧
    (∀ character ∈ front.getLast?, isWordChar character = false) ∧
    ∀ character ∈ back.head?, isWordChar character = false

private theorem startsOffWord_iff (text : Text) :
    startsOffWord text = true ↔ ∀ character ∈ text.head?, isWordChar character = false := by
  cases text with
  | nil => simp [startsOffWord]
  | cons character text => simp [startsOffWord]

private theorem startsOffWord_toList_iff (before? : Option Char) :
    startsOffWord before?.toList = true ↔
      ∀ character ∈ before?, isWordChar character = false := by
  cases before? with
  | none => simp [startsOffWord]
  | some character => simp [startsOffWord]

private theorem startsWithWord_iff (word : Text) (before? : Option Char) (text : Text) :
    startsWithWord word before? text = true ↔
      (∀ character ∈ before?, isWordChar character = false) ∧
        ∃ back, text = word ++ back ∧
          ∀ character ∈ back.head?, isWordChar character = false := by
  unfold startsWithWord
  rw [Bool.and_eq_true, Bool.and_eq_true, List.isPrefixOf_iff_prefix, startsOffWord_toList_iff,
    startsOffWord_iff]
  constructor
  · rintro ⟨⟨⟨back, rfl⟩, before⟩, after⟩
    rw [List.drop_left] at after
    exact ⟨before, back, rfl, after⟩
  · rintro ⟨before, back, rfl, after⟩
    rw [List.drop_left]
    exact ⟨⟨List.prefix_append word back, before⟩, after⟩

/-- The search behind a character finds a word at the start, where that character is right
before it, or further on. -/
theorem hasWordAfter_iff (word : Text) (before? : Option Char) (text : Text) :
    hasWordAfter word before? text = true ↔
      ∃ front back, text = front ++ word ++ back ∧
        (∀ character ∈ front.getLast?.or before?, isWordChar character = false) ∧
        ∀ character ∈ back.head?, isWordChar character = false := by
  induction text generalizing before? with
  | nil =>
      rw [hasWordAfter, startsWithWord_iff]
      constructor
      · rintro ⟨before, back, shape, after⟩
        exact ⟨[], back, shape, before, after⟩
      · rintro ⟨front, back, shape, before, after⟩
        obtain ⟨inFront, rfl⟩ := List.append_eq_nil_iff.1 shape.symm
        obtain ⟨rfl, rfl⟩ := List.append_eq_nil_iff.1 inFront
        exact ⟨before, [], rfl, after⟩
  | cons first text inductionHypothesis =>
      -- What stands right before the word is the end of `front`, or `before?` if that is empty.
      have lastOf : ∀ front : Text,
          (first :: front).getLast?.or before? = front.getLast?.or (some first) := by
        intro front
        rw [List.getLast?_cons]
        cases front.getLast? <;> rfl
      rw [hasWordAfter, Bool.or_eq_true, startsWithWord_iff, inductionHypothesis]
      constructor
      · rintro (⟨before, back, shape, after⟩ | ⟨front, back, rfl, before, after⟩)
        · exact ⟨[], back, shape, before, after⟩
        · exact ⟨first :: front, back, rfl, by rw [lastOf]; exact before, after⟩
      · rintro ⟨front, back, shape, before, after⟩
        cases front with
        | nil => exact .inl ⟨before, back, shape, after⟩
        | cons head front =>
            obtain ⟨rfl, further⟩ := List.cons.inj shape
            rw [lastOf] at before
            exact .inr ⟨front, back, further, before, after⟩

/-- The search finds a whole word exactly if there is one. -/
theorem hasWord_iff (word text : Text) : hasWord word text = true ↔ HoldsWord word text := by
  unfold hasWord HoldsWord
  rw [hasWordAfter_iff]
  simp only [Option.or_none]

/-- A program is only compiled exactly if it holds the word `input`. -/
theorem classify_eq_compileOnly_iff (code : Text) :
    classify code = .compileOnly ↔ HoldsWord inputWord code := by
  rw [← hasWord_iff]
  unfold classify
  cases hasWord inputWord code with
  | true => simp
  | false => simp

end DocSamples
