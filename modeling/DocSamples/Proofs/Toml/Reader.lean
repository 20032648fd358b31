import DocSamples.Toml.Reader
import DocSamples.Proofs.Text.Lookup
import Mathlib.Data.Bool.AllAny

/-!
Contract: keys, assignments and entries, as they are read.

Owns:
- keys that can do without quotes, and what their characters cannot be taken for;
- what is skipped between lines, and where that ends;
- the entries that assignments make, and when they make none.
-/

namespace DocSamples.Toml

/-! ## Keys -/

structure IsBare (key : Text) : Prop where
  nonempty : key ≠ []
  proper : ∀ character ∈ key, isKeyCharacter character = true

instance : DecidablePred IsBare := fun key =>
  decidable_of_iff (key ≠ [] ∧ key.all isKeyCharacter = true)
    ⟨fun ⟨nonempty, proper⟩ => ⟨nonempty, List.all_eq_true.1 proper⟩,
      fun bare => ⟨bare.nonempty, List.all_eq_true.2 bare.proper⟩⟩

section Key

variable {key : Text}

theorem IsBare.exists_first (bare : IsBare key) :
    ∃ first rest, key = first :: rest ∧ isKeyCharacter first = true := by
  obtain ⟨first, rest, rfl⟩ := List.exists_cons_of_ne_nil bare.nonempty
  exact ⟨first, rest, rfl, bare.proper first List.mem_cons_self⟩

/-- What a key starts with starts nothing else. -/
theorem ne_of_isKeyCharacter {character other : Char} (inKey : isKeyCharacter character = true)
    (outside : isKeyCharacter other = false) : character ≠ other := by
  rintro rfl
  rw [inKey] at outside
  exact Bool.noConfusion outside

/-- Characters of a kind are taken up to the first that is of another. -/
theorem takeWhile_append_of_stop {proper : Char → Bool} {spelling rest : Text}
    (inside : ∀ character ∈ spelling, proper character = true)
    (stop : ∀ character ∈ rest.head?, proper character = false) :
    (spelling ++ rest).takeWhile proper = spelling := by
  rw [List.takeWhile_append_of_pos inside]
  cases rest with
  | nil => exact List.append_nil spelling
  | cons first more =>
      rw [List.takeWhile_cons, stop first rfl, if_neg nofun, List.append_nil]

theorem key?_bare {blanks : Text} (bare : IsBare key)
    (areBlanks : ∀ character ∈ blanks, isBlank character = true) (rest : Text) :
    key? (key ++ blanks ++ '=' :: rest) = some (⟨[], key⟩, '=' :: rest) := by
  have stop : ∀ character ∈ (blanks ++ '=' :: rest).head?, isKeyCharacter character = false := by
    cases blanks with
    | nil => rintro _ ⟨⟩; decide
    | cons first more =>
        rintro _ ⟨⟩
        have blank := areBlanks first List.mem_cons_self
        rw [isBlank, Bool.or_eq_true, beq_iff_eq, beq_iff_eq] at blank
        rcases blank with rfl | rfl
        · decide
        · decide
  have taken := takeWhile_append_of_stop bare.proper stop
  have part : keyPart? (key ++ (blanks ++ '=' :: rest)) = some (key, blanks ++ '=' :: rest) := by
    unfold keyPart?
    dsimp only
    rw [taken, List.isEmpty_eq_false_iff.2 bare.nonempty, if_neg nofun, List.drop_left]
  have sign : skipBlanks (blanks ++ '=' :: rest) = '=' :: rest :=
    List.dropWhile_append_of_pos areBlanks
  unfold key?
  rw [List.append_assoc, keyParts?, part]
  dsimp only
  rw [sign]
  rfl

/-- What starts with a key is an assignment, and the rest of it has to finish the line. -/
theorem statement?_assignment {first : Char} {others after : Text} {value : Value}
    (inKey : isKeyCharacter first = true)
    (read : entry? (value? nestingLimit) (first :: others) = some ((⟨[], key⟩, value), after)) :
    statement? (first :: others) =
      (finishLine? after).map fun rest => (.assignment [] key value, rest) := by
  have noBracket : ∀ inside, first :: others ≠ '[' :: inside := fun inside same =>
    ne_of_isKeyCharacter inKey (by decide) (List.cons.inj same).1
  unfold statement?
  split
  next same => exact absurd same (noBracket _)
  next same => exact absurd same (noBracket _)
  next => rw [read]

end Key

/-! ## Between lines -/

def triviaStarts : List Char :=
  [' ', '\t', '\n', '\r', '#']

/-- Whether nothing that is skipped starts with a character. -/
def IsSolid (character : Char) : Prop :=
  character ∉ triviaStarts

instance : DecidablePred IsSolid := fun character =>
  inferInstanceAs (Decidable (character ∉ triviaStarts))

theorem skipTrivia_of_solid {first : Char} (solid : IsSolid first) (rest : Text) :
    skipTrivia (first :: rest) = first :: rest := by
  unfold IsSolid triviaStarts at solid
  simp only [List.mem_cons, List.not_mem_nil, or_false, not_or] at solid
  obtain ⟨noSpace, noTab, noLineFeed, noCarriageReturn, noComment⟩ := solid
  have noBlank : isBlank first = false := by
    rw [isBlank, beq_eq_false_iff_ne.2 noSpace, beq_eq_false_iff_ne.2 noTab]
    rfl
  unfold skipTrivia
  rw [skipTriviaFrom.eq_4 _ _ _ noLineFeed fun _ same => absurd same noCarriageReturn,
    if_neg nofun, noBlank, if_neg nofun, beq_eq_false_iff_ne.2 noComment, if_neg nofun]

theorem isSolid_of_isKeyCharacter {character : Char} (inKey : isKeyCharacter character = true) :
    IsSolid character := by
  intro skipped
  have outside : ∀ other ∈ triviaStarts, isKeyCharacter other = false :=
    List.all_iff_forall_prop.1 (by decide)
  exact ne_of_isKeyCharacter inKey (outside _ skipped) rfl

/-! ## Entries -/

/-- The entry is added if its key is new. -/
theorem addEntry?_eq (entry : Text × Value) (entries : Entries) :
    addEntry? entry.1 entry.2 entries =
      if entry.1 ∈ entries.map Prod.fst then none else some (entries ++ [entry]) := by
  unfold addEntry?
  by_cases known : entry.1 ∈ entries.map Prod.fst
  · have found : entries.lookup entry.1 ≠ none := fun absent => lookup_eq_none_iff.1 absent known
    rw [if_pos (Option.isSome_iff_ne_none.2 found), if_pos known]
  · rw [lookup_eq_none_iff.2 known, if_neg nofun, if_neg known]

/-- The run over entries: all are added if no key repeats another or one that was there. -/
theorem foldlM_addEntry?_eq (entries before : Entries) (apart : (before.map Prod.fst).Nodup) :
    entries.foldlM (fun table entry => addEntry? entry.1 entry.2 table) before =
      if ((before ++ entries).map Prod.fst).Nodup then some (before ++ entries) else none := by
  induction entries generalizing before with
  | nil =>
      rw [List.append_nil, if_pos apart]
      rfl
  | cons entry more inductionHypothesis =>
      rw [List.foldlM_cons, addEntry?_eq]
      have same : before ++ entry :: more = before ++ [entry] ++ more := List.append_cons ..
      by_cases known : entry.1 ∈ before.map Prod.fst
      · have repeated : ¬ ((before ++ entry :: more).map Prod.fst).Nodup := by
          rw [List.map_append, List.map_cons, List.nodup_append]
          exact fun distinct => distinct.2.2 _ known _ List.mem_cons_self rfl
        rw [if_pos known, if_neg repeated]
        rfl
      · have onward : ((before ++ [entry]).map Prod.fst).Nodup := by
          rw [List.map_append, List.map_singleton, List.nodup_append]
          refine ⟨apart, List.pairwise_singleton _ _, ?_⟩
          rintro _ member _ last rfl
          exact known (List.mem_singleton.1 last ▸ member)
        rw [if_neg known, same]
        exact inductionHypothesis _ onward

/-- Assignments to keys without dots make the entries that they say, if no key repeats another. -/
theorem entriesOf?_assignments (entries : Entries) :
    entriesOf? (entries.map fun entry => .assignment [] entry.1 entry.2) =
      if (entries.map Prod.fst).Nodup then some entries else none := by
  have run : ∀ before : Entries,
      ((entries.map fun entry => Statement.assignment [] entry.1 entry.2).foldlM Document.add?
        { entries := before }).map Document.entries =
      entries.foldlM (fun table entry => addEntry? entry.1 entry.2 table) before := by
    induction entries with
    | nil => exact fun _ => rfl
    | cons entry more inductionHypothesis =>
        intro before
        rw [List.map_cons, List.foldlM_cons, List.foldlM_cons]
        have added : Document.add? { entries := before } (.assignment [] entry.1 entry.2) =
            ( addEntry? entry.1 entry.2 before).map fun entries => { entries } :=
          rfl
        rw [added]
        cases addEntry? entry.1 entry.2 before with
        | none => rfl
        | some table => exact inductionHypothesis table
  exact (run []).trans (foldlM_addEntry?_eq entries [] List.nodup_nil)

end DocSamples.Toml
