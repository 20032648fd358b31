import DocSamples.Proofs.Toml.Nesting

/-!
Contract: documents of texts under bare keys, as they are written and read back.

Owns:
- how a text is written between quotes, and a document with a line for each entry;
- that what is written spells what it was written for;
- that a document without a repeated key is read as the entries that it was written for.

Texts are written on one line, with a number for each control.
-/

namespace DocSamples.Toml

/-! ## Writing -/

/-- A character as it is written between quotes.  `upper` is the case of hexadecimal digits. -/
def writeCharacter (upper : Bool) (character : Char) : Text :=
  if character = '"' ∨ character = '\\' then ['\\', character]
  else if isControl character then
    ['\\', 'u', '0', '0', hexDigit upper (character.toNat / 16),
      hexDigit upper (character.toNat % 16)]
  else [character]

def writeText (upper : Bool) (text : Text) : Text :=
  '"' :: (text.flatMap (writeCharacter upper) ++ ['"'])

def writeEntry (upper : Bool) (entry : Text × Text) : Text :=
  entry.1 ++ ' ' :: '=' :: ' ' :: writeText upper entry.2

/-- A document with a line for each entry.  `ended` says whether the last line ends in a line
feed, too. -/
def writeDocument (upper ended : Bool) : List (Text × Text) → Text
  | [] => []
  | [entry] => writeEntry upper entry ++ if ended then ['\n'] else []
  | entry :: more => writeEntry upper entry ++ '\n' :: writeDocument upper ended more

def textEntries (entries : List (Text × Text)) : Entries :=
  entries.map fun entry => (entry.1, .text entry.2)

/-! ## Spelling -/

/-- A character is written as one of the spellings that it has. -/
theorem spellsCharacter_writeCharacter (upper : Bool) (character : Char) :
    SpellsCharacter (writeCharacter upper character) character := by
  unfold writeCharacter
  split
  next special =>
    rcases special with rfl | rfl
    · exact .short (by decide)
    · exact .short (by decide)
  next ordinary =>
    obtain ⟨noQuote, noBackslash⟩ := not_or.1 ordinary
    split
    next control =>
      have small : character.toNat < 256 := by
        unfold isControl at control
        simp only [Bool.or_eq_true, decide_eq_true_eq, beq_iff_eq] at control
        omega
      have zeros : SpellsHex 2 ['0', '0'] 0 :=
        .snoc false (.snoc false .nil (by decide : 0 < 16)) (by decide : 0 < 16)
      have high : character.toNat / 16 < 16 := by omega
      have low : character.toNat % 16 < 16 := by omega
      have number : (0 * 16 + character.toNat / 16) * 16 + character.toNat % 16 =
          character.toNat := by
        omega
      have digits := (zeros.snoc upper high).snoc upper low
      rw [number] at digits
      exact .numeric (by decide) digits
    next printed =>
      exact .printed (.inr (Bool.not_eq_true _ ▸ printed)) noQuote noBackslash

private theorem spellsText_writeText (upper : Bool) (text : Text) :
    SpellsText (writeText upper text) text := by
  refine .basic ?_
  induction text with
  | nil => exact .nil
  | cons character text inductionHypothesis =>
      exact .cons (spellsCharacter_writeCharacter upper character) inductionHypothesis

section Lines

variable (upper : Bool)

private theorem spellsEntry_writeEntry {entry : Text × Text} (bare : IsBare entry.1) :
    SpellsEntry (Spells 0) (writeEntry upper entry) (entry.1, .text entry.2) := by
  have blank : AreBlanks [' '] := by decide
  have line : writeEntry upper entry =
      entry.1 ++ [' '] ++ '=' :: ([' '] ++ writeText upper entry.2) := by
    rw [writeEntry, List.append_assoc]
    rfl
  rw [line]
  exact .mk bare blank blank (SpellsScalar.text (spellsText_writeText upper entry.2))

private theorem spellsDocument_writeDocument (ended : Bool) {entries : List (Text × Text)}
    (bare : ∀ entry ∈ entries, IsBare entry.1) :
    SpellsDocument 0 (writeDocument upper ended entries) (textEntries entries) := by
  have noGap : Gap [] := .blanks (by decide)
  have noTail : LineTail [] := .mk (by decide : AreBlanks []) .none
  have onward : ∀ {entry rest more}, IsBare entry.1 → SpellsDocument 0 rest (textEntries more) →
      SpellsDocument 0 (writeEntry upper entry ++ '\n' :: rest) (textEntries (entry :: more)) := by
    intro entry rest more isBare others
    have line := SpellsDocument.more noGap (spellsEntry_writeEntry upper isBare) noTail .lineFeed
      others
    simp only [List.nil_append, List.append_nil, List.append_assoc, List.singleton_append] at line
    exact line
  fun_induction writeDocument upper ended entries with
  | case1 => exact .nil noGap .none
  | case2 entry =>
      have isBare := bare entry List.mem_cons_self
      cases ended with
      | true => exact onward isBare (.nil noGap .none)
      | false =>
          have line : SpellsDocument 0 ([] ++ writeEntry upper entry ++ []) _ :=
            .last noGap (spellsEntry_writeEntry upper isBare) noTail
          exact line
  | case3 entry more _ inductionHypothesis =>
      obtain ⟨isBare, others⟩ := List.forall_mem_cons.1 bare
      exact onward isBare (inductionHypothesis others)

end Lines

/-! ## Reading -/

/-- The whole: a document is read as the entries that it was written for. -/
theorem read?_writeDocument (upper ended : Bool) {entries : List (Text × Text)}
    (bare : ∀ entry ∈ entries, IsBare entry.1) (distinct : (entries.map Prod.fst).Nodup) :
    read? (writeDocument upper ended entries) = some (textEntries entries) := by
  have keys : (textEntries entries).map Prod.fst = entries.map Prod.fst := by
    rw [textEntries, List.map_map]
    rfl
  rw [read?_spelled (Nat.zero_le _) (spellsDocument_writeDocument upper ended bare),
    if_pos (keys ▸ distinct)]

end DocSamples.Toml
