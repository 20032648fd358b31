import DocSamples.Proofs.Toml.Spelling

/-!
Contract: the pieces of a document that have no parts of their own, as they are read.

Owns:
- where a value stops;
- that gaps are skipped as a whole, and the end of a line is found;
- that a text between quotes is read up to the quote that closes it.
-/

namespace DocSamples.Toml

/-! ## First characters -/

/-- Whether a text is empty or starts with a character of a kind. -/
def StartsIn (Kind : Char → Prop) (text : Text) : Prop :=
  ∀ character ∈ text.head?, Kind character

section Starts

variable {Kind : Char → Prop} {rest : Text}

theorem startsIn_nil : StartsIn Kind [] := nofun

theorem startsIn_cons {first : Char} (isFirst : Kind first) : StartsIn Kind (first :: rest) := by
  rintro _ ⟨⟩
  exact isFirst

variable (skipped : ∀ character ∈ triviaStarts, Kind character)

include skipped

theorem AreBlanks.startsIn {blanks : Text} (areBlanks : AreBlanks blanks)
    (start : StartsIn Kind rest) : StartsIn Kind (blanks ++ rest) := by
  cases blanks with
  | nil => exact start
  | cons first more =>
      apply startsIn_cons
      rcases areBlanks first List.mem_cons_self with rfl | rfl
      · exact skipped _ (by decide)
      · exact skipped _ (by decide)

theorem Remark.startsIn {remark : Text} (isRemark : Remark remark) (start : StartsIn Kind rest) :
    StartsIn Kind (remark ++ rest) := by
  cases isRemark with
  | none => exact start
  | comment => exact startsIn_cons (skipped _ (by decide))

theorem LineTail.startsIn {tail : Text} (isTail : LineTail tail) (start : StartsIn Kind rest) :
    StartsIn Kind (tail ++ rest) := by
  obtain ⟨areBlanks, isRemark⟩ := isTail
  rw [List.append_assoc]
  exact areBlanks.startsIn skipped (isRemark.startsIn skipped start)

theorem LineEnd.startsIn {ending : Text} (isEnding : LineEnd ending) :
    StartsIn Kind (ending ++ rest) := by
  cases isEnding with
  | lineFeed => exact startsIn_cons (skipped _ (by decide))
  | carriageReturn => exact startsIn_cons (skipped _ (by decide))

theorem Gap.startsIn {gap : Text} (isGap : Gap gap) (start : StartsIn Kind rest) :
    StartsIn Kind (gap ++ rest) := by
  cases isGap with
  | blanks areBlanks => exact areBlanks.startsIn skipped start
  | line isTail isEnding =>
      rw [List.append_assoc, List.append_assoc]
      exact isTail.startsIn skipped (isEnding.startsIn skipped)

end Starts

/-- Whether a value that was spelled out is over where a character stands. -/
def EndsValue (character : Char) : Prop :=
  isScalarCharacter character = false ∧ character ≠ '"' ∧ character ≠ '\''

instance : DecidablePred EndsValue := fun character =>
  inferInstanceAs (Decidable (_ ∧ character ≠ '"' ∧ character ≠ '\''))

theorem endsValue_of_mem : ∀ character ∈ triviaStarts, EndsValue character :=
  List.all_iff_forall_prop.1 (by decide)

/-! ## What says nothing -/

private theorem isPlain_of_not_control {character : Char} (printed : isControl character = false) :
    isPlain character = true := by
  unfold isControl at printed
  unfold isPlain
  simp only [Bool.or_eq_false_iff, decide_eq_false_iff_not, beq_eq_false_iff_ne] at printed
  simp only [Bool.or_eq_true, Bool.and_eq_true, decide_eq_true_eq, bne_iff_ne]
  exact .inr ⟨by omega, printed.2⟩

theorem IsPrinted.isPlain {character : Char} (isPrinted : IsPrinted character) :
    isPlain character = true := by
  rcases isPrinted with rfl | printed
  · rfl
  · exact isPlain_of_not_control printed

/-- What may stand in a comment does not end its line. -/
theorem IsPrinted.ne_of_isControl {character control : Char} (isPrinted : IsPrinted character)
    (ends : control ≠ '\t' ∧ isControl control = true) : character ≠ control := by
  rintro rfl
  rcases isPrinted with rfl | printed
  · exact ends.1 rfl
  · rw [ends.2] at printed
    exact Bool.noConfusion printed

theorem AreBlanks.isBlank {blanks : Text} (areBlanks : AreBlanks blanks) :
    ∀ character ∈ blanks, isBlank character = true := by
  intro character member
  rcases areBlanks character member with rfl | rfl
  · rfl
  · rfl

theorem skipBlanks_append {blanks : Text} (areBlanks : AreBlanks blanks) (rest : Text) :
    skipBlanks (blanks ++ rest) = skipBlanks rest :=
  List.dropWhile_append_of_pos areBlanks.isBlank

section Skipping

variable (rest : Text)

theorem skipTriviaFrom_blanks {blanks : Text} (areBlanks : AreBlanks blanks) :
    skipTriviaFrom false (blanks ++ rest) = skipTriviaFrom false rest := by
  induction blanks with
  | nil => rfl
  | cons first more inductionHypothesis =>
      obtain ⟨here, others⟩ := List.forall_mem_cons.1 areBlanks
      rcases here with rfl | rfl
      · exact inductionHypothesis others
      · exact inductionHypothesis others

theorem skipTriviaFrom_words {words : Text} (printed : ∀ character ∈ words, IsPrinted character) :
    skipTriviaFrom true (words ++ rest) = skipTriviaFrom true rest := by
  induction words with
  | nil => rfl
  | cons first more inductionHypothesis =>
      obtain ⟨here, others⟩ := List.forall_mem_cons.1 printed
      have noLineFeed : first ≠ '\n' := here.ne_of_isControl (by decide)
      have noCarriageReturn : first ≠ '\r' := here.ne_of_isControl (by decide)
      rw [List.cons_append, skipTriviaFrom.eq_4 _ _ _ noLineFeed
        fun _ same => absurd same noCarriageReturn, if_pos rfl, if_pos here.isPlain]
      exact inductionHypothesis others

private theorem skipTrivia_line {tail ending : Text} (isTail : LineTail tail)
    (isEnding : LineEnd ending) :
    skipTrivia (tail ++ ending ++ rest) = skipTrivia rest := by
  obtain ⟨areBlanks, isRemark⟩ := isTail
  unfold skipTrivia
  rw [List.append_assoc, List.append_assoc, skipTriviaFrom_blanks _ areBlanks]
  cases isRemark with
  | none =>
      cases isEnding with
      | lineFeed => rfl
      | carriageReturn => rfl
  | comment printed =>
      refine (skipTriviaFrom_words _ printed).trans ?_
      cases isEnding with
      | lineFeed => rfl
      | carriageReturn => rfl

/-- A gap is skipped as a whole. -/
theorem skipTrivia_gap {gap : Text} (isGap : Gap gap) :
    skipTrivia (gap ++ rest) = skipTrivia rest := by
  induction isGap with
  | blanks areBlanks => exact skipTriviaFrom_blanks rest areBlanks
  | line isTail isEnding _ inductionHypothesis =>
      rw [List.append_assoc _ _ rest, skipTrivia_line _ isTail isEnding, inductionHypothesis]

end Skipping

theorem skipTrivia_remark {remark : Text} (isRemark : Remark remark) : skipTrivia remark = [] := by
  cases isRemark with
  | none => rfl
  | @comment words printed =>
      have skipped := skipTriviaFrom_words [] printed
      rw [List.append_nil] at skipped
      exact skipped

/-! ## The rest of a line -/

section Line

variable {tail : Text} (isTail : LineTail tail)

include isTail

/-- Behind what says nothing in a line there is what ends the line. -/
theorem skipComment_tail {after : Text} (still : skipComment (skipBlanks after) = after)
    (noWords : after.dropWhile isPlain = after) :
    skipComment (skipBlanks (tail ++ after)) = after := by
  obtain ⟨areBlanks, isRemark⟩ := isTail
  rw [List.append_assoc, skipBlanks_append areBlanks]
  cases isRemark with
  | none => exact still
  | comment printed =>
      refine (List.dropWhile_append_of_pos ?_).trans noWords
      exact fun character member => (printed character member).isPlain

theorem finishLine?_end : finishLine? tail = some [] := by
  have nothing : skipComment (skipBlanks (tail ++ [])) = [] := skipComment_tail isTail rfl rfl
  rw [List.append_nil] at nothing
  unfold finishLine?
  rw [nothing]

theorem finishLine?_line {ending : Text} (isEnding : LineEnd ending) (rest : Text) :
    finishLine? (tail ++ (ending ++ rest)) = some rest := by
  unfold finishLine?
  cases isEnding with
  | lineFeed =>
      rw [skipComment_tail isTail rfl rfl]
      rfl
  | carriageReturn =>
      rw [skipComment_tail isTail rfl rfl]
      rfl

end Line

/-! ## Escapes -/

private theorem hexDigit?_hexDigit : ∀ upper, ∀ value < 16,
    hexDigit? (hexDigit upper value) = some value := by
  decide

private theorem characterOf?_toNat (character : Char) :
    characterOf? character.toNat = some character := by
  have valid : character.toNat.isValidChar := character.valid
  unfold characterOf?
  rw [if_pos valid, Char.ofNat_toNat]

private theorem shortEscape?_of_mem {letter character : Char}
    (known : (letter, character) ∈ shortEscapes) : shortEscape? letter = some character := by
  have all : ∀ escape ∈ shortEscapes, shortEscape? escape.1 = some escape.2 := by decide
  exact all _ known

private theorem numericEscapeSize?_of_mem {letter : Char} {size : Nat}
    (known : (letter, size) ∈ numericEscapes) :
    shortEscape? letter = none ∧ numericEscapeSize? letter = some size := by
  have all : ∀ escape ∈ numericEscapes,
      shortEscape? escape.1 = none ∧ numericEscapeSize? escape.1 = some escape.2 := by
    decide
  exact all _ known

section Hex

variable {size number : Nat} {digits : Text}

theorem SpellsHex.length_eq (spelled : SpellsHex size digits number) : digits.length = size := by
  induction spelled with
  | nil => rfl
  | snoc upper _ _ inductionHypothesis =>
      rw [List.length_append, inductionHypothesis]
      rfl

private theorem SpellsHex.hexNumber? (spelled : SpellsHex size digits number) :
    hexNumber? digits = some number := by
  induction spelled with
  | nil => rfl
  | snoc upper _ isDigit inductionHypothesis =>
      have last := hexDigit?_hexDigit upper _ isDigit
      unfold Toml.hexNumber? at inductionHypothesis ⊢
      rw [List.foldlM_append, inductionHypothesis]
      simp only [Option.bind_eq_bind, Option.bind_some, List.foldlM_cons, last, Option.map_some,
        List.foldlM_nil, Option.pure_def]

private theorem escape?_numeric {letter character : Char} (known : (letter, size) ∈ numericEscapes)
    (spelled : SpellsHex size digits character.toNat) (rest : Text) :
    escape? (letter :: (digits ++ rest)) = some (character, size + 1) := by
  obtain ⟨notShort, sized⟩ := numericEscapeSize?_of_mem known
  have enough : ¬ (digits ++ rest).length < size := by
    rw [List.length_append, spelled.length_eq]
    omega
  have taken : (digits ++ rest).take size = digits := by
    rw [← spelled.length_eq]
    exact List.take_left
  unfold escape?
  dsimp only
  rw [notShort, sized]
  dsimp only
  rw [if_neg enough, taken, spelled.hexNumber?, Option.bind_some, characterOf?_toNat]

end Hex

private theorem basicFrom_of_escape? {rest : Text} {character : Char} {size : Nat}
    (escaped : escape? rest = some (character, size)) :
    basicFrom 0 ('\\' :: rest) = consRead character (basicFrom size rest) := by
  rw [basicFrom.eq_4, escaped]

private theorem basicFrom_skipped (skipped rest : Text) :
    basicFrom skipped.length (skipped ++ rest) = basicFrom 0 rest := by
  induction skipped with
  | nil => rfl
  | cons first more inductionHypothesis => exact inductionHypothesis

/-! ## Texts -/

/-- One character between double quotes is read as what it stands for. -/
theorem basicFrom_character {spelling : Text} {character : Char}
    (spelled : SpellsCharacter spelling character) (rest : Text) :
    basicFrom 0 (spelling ++ rest) = consRead character (basicFrom 0 rest) := by
  cases spelled with
  | printed isPrinted noQuote noBackslash =>
      rw [List.singleton_append, basicFrom.eq_5 _ _ noQuote noBackslash, if_pos isPrinted.isPlain]
  | @short letter _ known =>
      have escaped : escape? (letter :: rest) = some (character, 1) := by
        unfold escape?
        dsimp only
        rw [shortEscape?_of_mem known]
      exact basicFrom_of_escape? escaped
  | numeric known spelled =>
      rw [List.cons_append, List.cons_append,
        basicFrom_of_escape? (escape?_numeric known spelled rest), basicFrom.eq_2,
        ← spelled.length_eq, basicFrom_skipped]

private theorem basicFrom_characters {inside text : Text} (spelled : SpellsCharacters inside text)
    (rest : Text) : basicFrom 0 (inside ++ '"' :: rest) = some (text, rest) := by
  induction spelled with
  | nil => rfl
  | cons first _ inductionHypothesis =>
      rw [List.append_assoc, basicFrom_character first, inductionHypothesis]
      rfl

private theorem literal_append {text : Text}
    (printed : ∀ character ∈ text, IsPrinted character ∧ character ≠ '\'') (rest : Text) :
    literal (text ++ '\'' :: rest) = some (text, rest) := by
  induction text with
  | nil => rfl
  | cons first more inductionHypothesis =>
      obtain ⟨⟨isPrinted, noQuote⟩, others⟩ := List.forall_mem_cons.1 printed
      rw [List.cons_append, literal.eq_3 _ _ noQuote, if_pos isPrinted.isPlain,
        inductionHypothesis others]
      rfl

/-- Three quotes would start a string on several lines. -/
theorem string?_of_short {quote : Char} {inside : Text}
    (short : ∀ rest, inside ≠ quote :: quote :: rest) :
    string? (quote :: inside) = shortString? (quote :: inside) := by
  unfold string?
  split
  next rest shape =>
    obtain ⟨rfl, same⟩ := List.cons.inj shape
    exact absurd same (short rest)
  next rest shape =>
    obtain ⟨rfl, same⟩ := List.cons.inj shape
    exact absurd same (short rest)
  next => rfl

private theorem SpellsCharacter.ne_quote {spelling : Text} {character : Char}
    (spelled : SpellsCharacter spelling character) (rest more : Text) :
    spelling ++ rest ≠ '"' :: more := by
  intro shape
  cases spelled with
  | printed _ noQuote => exact noQuote (List.cons.inj shape).1
  | short => exact absurd (List.cons.inj shape).1 (by decide)
  | numeric => exact absurd (List.cons.inj shape).1 (by decide)

/-- A text is read up to the quote that closes it.  With an empty text, the quote behind the two is
not that of another text. -/
theorem string?_append {spelling text rest : Text} (spelled : SpellsText spelling text)
    (stops : StartsIn EndsValue rest) : string? (spelling ++ rest) = some (text, rest) := by
  cases spelled with
  | basic spelled =>
      rw [List.cons_append, List.append_assoc, List.singleton_append, string?_of_short]
      · exact basicFrom_characters spelled rest
      intro more shape
      cases spelled with
      | nil => exact (stops '"' (by rw [(List.cons.inj shape).2]; rfl)).2.1 rfl
      | cons first =>
          rw [List.append_assoc] at shape
          exact first.ne_quote _ _ shape
  | literal printed =>
      rw [List.cons_append, List.append_assoc, List.singleton_append, string?_of_short]
      · exact literal_append printed rest
      intro more shape
      cases text with
      | nil => exact (stops '\'' (by rw [(List.cons.inj shape).2]; rfl)).2.2 rfl
      | cons first _ => exact (printed first List.mem_cons_self).2 (List.cons.inj shape).1

theorem value?_text {spelling text rest : Text} (spelled : SpellsText spelling text)
    (stops : StartsIn EndsValue rest) (depth : Nat) :
    value? depth (spelling ++ rest) = some (.text text, rest) := by
  have read := string?_append spelled stops
  cases spelled with
  | basic =>
      rw [List.cons_append] at read ⊢
      rw [value?.eq_def]
      simp only [read]
  | literal =>
      rw [List.cons_append] at read ⊢
      rw [value?.eq_def]
      simp only [read]

end DocSamples.Toml
