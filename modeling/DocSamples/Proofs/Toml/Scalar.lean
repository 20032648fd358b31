import DocSamples.Proofs.Toml.Token

/-!
Contract: the values of a document that have no parts, as they are read.

Owns:
- that a decimal integer is read as its number, and that it is taken for nothing else;
- that each value without parts is read as what it stands for, and up to where it stops.

An integer is no date, since a date has a hyphen behind its year; no truth value, since it has no
letters; and no number in another base, since it has no zero in front of other digits.
-/

namespace DocSamples.Toml

/-! ## Groups of digits -/

section Groups

private theorem numberIn_eq_ofDigitChars {digits : Text}
    (areDigits : ∀ character ∈ digits, character.isDigit = true) :
    numberIn 10 digits = Nat.ofDigitChars 10 digits 0 := by
  unfold numberIn Nat.ofDigitChars
  generalize 0 = start
  induction digits generalizing start with
  | nil => rfl
  | cons first more inductionHypothesis =>
      obtain ⟨here, others⟩ := List.forall_mem_cons.1 areDigits
      rw [List.foldl_cons, List.foldl_cons, if_pos here, Nat.mul_comm start]
      exact inductionHypothesis others _

variable {groups : List Text}
  (digits : ∀ group ∈ groups, group ≠ [] ∧ ∀ character ∈ group, character.isDigit = true)

include digits

private theorem digits?_joinWith (nonempty : groups ≠ []) :
    digits? Char.isDigit (joinWith '_' groups) = some groups.flatten := by
  have apart : splitAt '_' (joinWith '_' groups) = groups := by
    apply splitAt_joinWith '_' nonempty
    intro group member underscore
    exact absurd ((digits group member).2 _ underscore) (by decide)
  have proper : (groups.all fun group => !group.isEmpty && group.all Char.isDigit) = true := by
    rw [List.all_eq_true]
    intro group member
    obtain ⟨some, areDigits⟩ := digits group member
    rw [List.isEmpty_eq_false_iff.2 some, List.all_eq_true.2 areDigits]
    rfl
  unfold digits?
  dsimp only
  rw [apart, if_pos proper]

private theorem eq_or_isDigit_of_mem_joinWith :
    ∀ character ∈ joinWith '_' groups, character = '_' ∨ character.isDigit = true := by
  fun_induction joinWith '_' groups with
  | case1 => nofun
  | case2 group =>
      obtain ⟨-, areDigits⟩ := digits group List.mem_cons_self
      exact fun character member => .inr (areDigits character member)
  | case3 group next groups inductionHypothesis =>
      obtain ⟨⟨-, areDigits⟩, others⟩ := List.forall_mem_cons.1 digits
      intro character member
      rcases List.mem_append.1 member with here | behind
      · exact .inr (areDigits character here)
      · rcases List.mem_cons.1 behind with same | later
        · exact .inl same
        · exact inductionHypothesis others character later

end Groups

/-! ## Whole numbers -/

section Whole

variable {text : Text} {number : Nat} (spelled : SpellsWhole text number)

include spelled

private theorem SpellsWhole.mem :
    ∀ character ∈ text, character = '_' ∨ character.isDigit = true := by
  obtain ⟨-, digits, -⟩ := spelled
  exact eq_or_isDigit_of_mem_joinWith digits

theorem SpellsWhole.exists_first :
    ∃ first rest, text = first :: rest ∧ first.isDigit = true := by
  obtain ⟨nonempty, digits, -⟩ := spelled
  obtain ⟨group, groups, rfl⟩ := List.exists_cons_of_ne_nil nonempty
  obtain ⟨some, areDigits⟩ := digits group List.mem_cons_self
  obtain ⟨first, rest, rfl⟩ := List.exists_cons_of_ne_nil some
  have here := areDigits first List.mem_cons_self
  cases groups with
  | nil => exact ⟨first, rest, rfl, here⟩
  | cons next groups => exact ⟨first, _, rfl, here⟩

private theorem SpellsWhole.wholeDigits? :
    ∃ digits, wholeDigits? text = some digits ∧ numberIn 10 digits = number := by
  obtain ⟨nonempty, digits, noZero⟩ := spelled
  refine ⟨_, ?_, numberIn_eq_ofDigitChars ?_⟩
  · unfold Toml.wholeDigits?
    rw [if_neg, digits?_joinWith digits nonempty]
    intro refused
    rw [Bool.and_eq_true, beq_iff_eq, bne_iff_ne] at refused
    exact refused.2 (noZero refused.1)
  · intro character member
    obtain ⟨group, inGroups, inGroup⟩ := List.mem_flatten.1 member
    exact (digits group inGroups).2 character inGroup

private theorem SpellsWhole.eq_nil_of_zero {rest : Text} (shape : text = '0' :: rest) :
    rest = [] := by
  obtain ⟨-, -, noZero⟩ := spelled
  rw [shape] at noZero
  exact (List.cons.inj (noZero rfl)).2

end Whole

/-! ## Integers -/

/-- Behind a zero there would be the letter of a base. -/
theorem integerOf?_decimal {spelling : Text}
    (noBase : ∀ letter rest, spelling ≠ '0' :: letter :: rest) :
    integerOf? spelling = (Toml.wholeDigits? (splitSign spelling).2).map fun digits =>
      if (splitSign spelling).1 then -Int.ofNat (numberIn 10 digits)
      else Int.ofNat (numberIn 10 digits) := by
  unfold integerOf?
  split
  next rest => exact absurd rfl (noBase 'x' rest)
  next rest => exact absurd rfl (noBase 'o' rest)
  next rest => exact absurd rfl (noBase 'b' rest)
  next => rfl

section Integer

variable {spelling : Text} {value : Int} (spelled : SpellsInteger spelling value)

include spelled

private theorem SpellsInteger.integerOf? : integerOf? spelling = some value := by
  cases spelled with
  | unsigned whole =>
      obtain ⟨digits, read, rfl⟩ := whole.wholeDigits?
      obtain ⟨first, rest, shape, isDigit⟩ := whole.exists_first
      have noSign : splitSign spelling = (false, spelling) := by
        rw [shape]
        apply splitSign.eq_3
        · rintro more ⟨⟩
          exact absurd isDigit (by decide)
        · rintro more ⟨⟩
          exact absurd isDigit (by decide)
      have noBase : ∀ letter more, spelling ≠ '0' :: letter :: more :=
        fun letter more same => List.cons_ne_nil letter more (whole.eq_nil_of_zero same)
      rw [integerOf?_decimal noBase, noSign, read]
      rfl
  | plus whole =>
      obtain ⟨digits, read, rfl⟩ := whole.wholeDigits?
      rw [integerOf?_decimal fun _ _ same => absurd (List.cons.inj same).1 (by decide), splitSign,
        read]
      rfl
  | minus whole =>
      obtain ⟨digits, read, rfl⟩ := whole.wholeDigits?
      rw [integerOf?_decimal fun _ _ same => absurd (List.cons.inj same).1 (by decide), splitSign,
        read]
      rfl

/-- A sign may only come first. -/
theorem SpellsInteger.shape :
    ∃ first rest, spelling = first :: rest ∧
      (first = '+' ∨ first = '-' ∨ first.isDigit = true) ∧
      ∀ character ∈ rest, character = '_' ∨ character.isDigit = true := by
  cases spelled with
  | unsigned whole =>
      obtain ⟨first, rest, rfl, isDigit⟩ := whole.exists_first
      exact ⟨first, rest, rfl, .inr (.inr isDigit), (List.forall_mem_cons.1 whole.mem).2⟩
  | plus whole => exact ⟨'+', _, rfl, .inl rfl, whole.mem⟩
  | minus whole => exact ⟨'-', _, rfl, .inr (.inl rfl), whole.mem⟩

theorem SpellsInteger.isScalarCharacter :
    ∀ character ∈ spelling, isScalarCharacter character = true := by
  have ofDigit : ∀ character : Char, character.isDigit = true →
      Toml.isScalarCharacter character = true := by
    intro character isDigit
    unfold Toml.isScalarCharacter Char.isAlphanum
    rw [isDigit, Bool.or_true, Bool.true_or]
  obtain ⟨first, rest, rfl, isFirst, others⟩ := spelled.shape
  rw [List.forall_mem_cons]
  constructor
  · rcases isFirst with rfl | rfl | isDigit
    · decide
    · decide
    · exact ofDigit first isDigit
  · intro character member
    rcases others character member with rfl | isDigit
    · decide
    · exact ofDigit character isDigit

private theorem scalarOf?_integer (least : -Int.pow 2 63 ≤ value)
    (greatest : value < Int.pow 2 63) :
    scalarOf? spelling = some (.integer value) := by
  obtain ⟨first, rest, shape, isFirst, -⟩ := spelled.shape
  have noWord : ∀ letter word, letter ≠ '+' ∧ letter ≠ '-' ∧ letter.isDigit = false →
      spelling ≠ letter :: word := by
    rintro letter word ⟨noPlus, noMinus, noDigit⟩ same
    rw [shape] at same
    obtain ⟨rfl, -⟩ := List.cons.inj same
    rcases isFirst with isPlus | isMinus | isDigit
    · exact noPlus isPlus
    · exact noMinus isMinus
    · rw [noDigit] at isDigit
      exact Bool.noConfusion isDigit
  have noTrue : spelling ≠ "true".toList := noWord 't' _ (by decide)
  have noFalse : spelling ≠ "false".toList := noWord 'f' _ (by decide)
  have within : isWithinLimits value = true := by
    have low : -Int.pow 2 127 ≤ -Int.pow 2 63 := by decide
    have high : Int.pow 2 63 ≤ Int.pow 2 128 := by decide
    unfold isWithinLimits
    rw [decide_eq_true (Int.le_trans low least),
      decide_eq_true (Int.lt_of_lt_of_le greatest high)]
    rfl
  unfold scalarOf?
  rw [if_neg noTrue, if_neg noFalse, spelled.integerOf?]
  dsimp only
  rw [if_pos within]

end Integer

/-! ## Values without quotes -/

/-- Behind the year of a date there is a hyphen. -/
theorem mem_tail_of_afterDate? {spelling rest : Text} (found : afterDate? spelling = some rest) :
    '-' ∈ spelling.tail := by
  unfold afterDate? at found
  simp only [Option.bind_eq_bind, Option.bind_eq_some_iff] at found
  obtain ⟨⟨year, afterYear⟩, readYear, afterHyphen, hyphen, -⟩ := found
  -- The year takes four characters, so the hyphen is not the first of all.
  have cut : afterYear = spelling.tail.drop 3 := by
    unfold fixedNumber? at readYear
    dsimp only at readYear
    split at readYear
    · rw [List.drop_tail]
      exact (congrArg Prod.snd (Option.some.inj readYear)).symm
    · exact absurd readYear nofun
  cases afterYear with
  | nil => exact absurd hyphen nofun
  | cons first more =>
      dsimp only [after?] at hyphen
      split at hyphen
      next same =>
        have behind : '-' ∈ spelling.tail.drop 3 := cut ▸ beq_iff_eq.1 same ▸ List.mem_cons_self
        exact List.mem_of_mem_drop behind
      next => exact absurd hyphen nofun

/-- Without a date at its start, a text spells a value up to the first character that cannot be
part of it. -/
theorem scalar?_append {spelling rest : Text} {value : Value}
    (proper : ∀ character ∈ spelling, isScalarCharacter character = true)
    (noHyphen : '-' ∉ spelling.tail) (read : scalarOf? spelling = some value)
    (stops : StartsIn EndsValue rest) : scalar? (spelling ++ rest) = some (value, rest) := by
  have taken : (spelling ++ rest).takeWhile isScalarCharacter = spelling :=
    takeWhile_append_of_stop proper fun character first => (stops character first).1
  have noDate : (afterDate? spelling == some []) = false :=
    beq_eq_false_iff_ne.2 fun date => noHyphen (mem_tail_of_afterDate? date)
  have whole : scalarSpelling (spelling ++ rest) = spelling := by
    unfold scalarSpelling
    dsimp only
    rw [taken, noDate]
    rfl
  unfold scalar?
  dsimp only
  rw [whole, read, Option.map_some, List.drop_left]

private theorem value?_of_isScalarCharacter {first : Char}
    (isScalar : isScalarCharacter first = true)
    (depth : Nat) (rest : Text) : value? depth (first :: rest) = scalar? (first :: rest) := by
  have differs : ∀ other, isScalarCharacter other = false → first ≠ other := by
    rintro _ isOther rfl
    rw [isScalar] at isOther
    exact Bool.noConfusion isOther
  rw [value?.eq_def]
  dsimp only
  split
  next same => exact absurd (List.cons.inj same).1 (differs _ (by decide))
  next same => exact absurd (List.cons.inj same).1 (differs _ (by decide))
  next same => exact absurd (List.cons.inj same).1 (differs _ (by decide))
  next same => exact absurd (List.cons.inj same).1 (differs _ (by decide))
  next => rfl

private theorem value?_plain {first : Char} {others rest : Text} {value : Value}
    (proper : ∀ character ∈ first :: others, isScalarCharacter character = true)
    (noHyphen : '-' ∉ others) (read : scalarOf? (first :: others) = some value)
    (stops : StartsIn EndsValue rest) (depth : Nat) :
    value? depth (first :: others ++ rest) = some (value, rest) := by
  have whole : scalar? (first :: others ++ rest) = some (value, rest) :=
    scalar?_append proper noHyphen read stops
  rw [List.cons_append] at whole ⊢
  rw [value?_of_isScalarCharacter (proper first List.mem_cons_self), whole]

/-- A value without parts is read as what it stands for, however deep it lies. -/
theorem value?_scalar {spelling rest : Text} {value : Value} (spelled : SpellsScalar spelling value)
    (stops : StartsIn EndsValue rest) (depth : Nat) :
    value? depth (spelling ++ rest) = some (value, rest) := by
  cases spelled with
  | text spelled => exact value?_text spelled stops depth
  | integer spelled least greatest =>
      have proper := spelled.isScalarCharacter
      have read := scalarOf?_integer spelled least greatest
      obtain ⟨first, others, rfl, -, digits⟩ := spelled.shape
      have noHyphen : '-' ∉ others := fun member => absurd (digits _ member) (by decide)
      exact value?_plain proper noHyphen read stops depth
  | yes =>
      exact value?_plain (List.all_eq_true.1 (by decide)) (by decide) (if_pos rfl) stops depth
  | no =>
      have read : scalarOf? ['f', 'a', 'l', 's', 'e'] = some (.boolean false) :=
        (if_neg (by decide)).trans (if_pos rfl)
      exact value?_plain (List.all_eq_true.1 (by decide)) (by decide) read stops depth

end DocSamples.Toml
