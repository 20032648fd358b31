import DocSamples.Proofs.Toml.Scalar

/-!
Contract: arrays, tables and documents, as they are read.

Owns:
- one round of reading parts, and the run over all of them;
- that a value is read as what it stands for, up to its end, at every depth within the limit;
- that a document is read as its entries, and refused if and only if one of its keys is repeated.

The run over parts is the same for arrays and for tables, which differ in what a part is and in the
bracket that closes them.
-/

namespace DocSamples.Toml

/-! ## Rounds over parts -/

/-- What one round of a reader of parts does with what stands before it. -/
structure ReadsParts {Part : Type} (closing : Char) (part? : Text → Option (Part × Text))
    (parts? : Nat → Text → Option (List Part × Text)) : Prop where
  none : ∀ {rounds text rest}, skipTrivia text = closing :: rest →
    parts? (rounds + 1) text = some ([], rest)
  last : ∀ {rounds text first others part after rest}, skipTrivia text = first :: others →
    first ≠ closing → part? (first :: others) = some (part, after) →
    skipTrivia after = closing :: rest → parts? (rounds + 1) text = some ([part], rest)
  more : ∀ {rounds text first others part after rest parts final},
    skipTrivia text = first :: others → first ≠ closing →
    part? (first :: others) = some (part, after) → skipTrivia after = ',' :: rest →
    parts? rounds rest = some (parts, final) →
    parts? (rounds + 1) text = some (part :: parts, final)

private theorem readsParts_arrayItems? (item? : Text → Option (Value × Text)) :
    ReadsParts ']' item? (arrayItems? item?) where
  none start := by
    unfold arrayItems?
    rw [start]
    rfl
  last start opened read closed := by
    unfold arrayItems?
    rw [start]
    split
    next same => exact absurd (List.cons.inj same).1 opened
    next => simp only [read, closed]
  more start opened read comma later := by
    unfold arrayItems?
    rw [start]
    split
    next same => exact absurd (List.cons.inj same).1 opened
    next => simp only [read, comma, later]

private theorem readsParts_tableEntries? (item? : Text → Option (Value × Text)) :
    ReadsParts '\x7d' ( entry? item?) (tableEntries? item?) where
  none start := by
    unfold tableEntries?
    rw [start]
    rfl
  last start opened read closed := by
    unfold tableEntries?
    rw [start]
    split
    next same => exact absurd (List.cons.inj same).1 opened
    next => simp only [read, closed]
  more start opened read comma later := by
    unfold tableEntries?
    rw [start]
    split
    next same => exact absurd (List.cons.inj same).1 opened
    next => simp only [read, comma, later]

/-! ## The run over parts -/

/-- Whether a text starts with something that is neither skipped nor taken for a closing
bracket. -/
def StartsPart (closing : Char) (text : Text) : Prop :=
  ∃ first others, text = first :: others ∧ IsSolid first ∧ first ≠ closing

theorem skipTrivia_gap_solid {gap : Text} (isGap : Gap gap) {first : Char} (solid : IsSolid first)
    (rest : Text) : skipTrivia (gap ++ first :: rest) = first :: rest := by
  rw [skipTrivia_gap _ isGap, skipTrivia_of_solid solid]

/-- Whether a reader of parts reads each part that is spelled out as its image. -/
structure ReadsEach {Part Read : Type} (closing : Char) (SpellsPart : Text → Part → Prop)
    (part? : Text → Option (Read × Text)) (image : Part → Read) : Prop where
  starts : ∀ {spelling part}, SpellsPart spelling part → StartsPart closing spelling
  reads : ∀ {spelling part rest}, SpellsPart spelling part → StartsIn EndsValue rest →
    part? (spelling ++ rest) = some (image part, rest)

section Parts

variable {Part Read : Type} {closing : Char} {SpellsPart : Text → Part → Prop}
  {part? : Text → Option (Read × Text)} {image : Part → Read}

/-- A part is read up to the comma or the bracket behind it. -/
theorem ReadsEach.part (each : ReadsEach closing SpellsPart part? image)
    {before spelling after : Text} {part : Part} (isBefore : Gap before)
    (spelled : SpellsPart spelling part) (isAfter : Gap after) (sign : Char)
    (isSign : IsSolid sign ∧ EndsValue sign) (behind : Text) :
    ∃ first others left,
      skipTrivia (before ++ (spelling ++ (after ++ sign :: behind))) = first :: others ∧
      first ≠ closing ∧ part? (first :: others) = some (image part, left) ∧
      skipTrivia left = sign :: behind := by
  have stops : StartsIn EndsValue (after ++ sign :: behind) :=
    isAfter.startsIn endsValue_of_mem (startsIn_cons isSign.2)
  have read := each.reads spelled stops
  obtain ⟨first, others, rfl, solid, opened⟩ := each.starts spelled
  exact ⟨first, others ++ (after ++ sign :: behind), after ++ sign :: behind,
    skipTrivia_gap_solid isBefore solid _, opened, read, skipTrivia_gap_solid isAfter isSign.1 _⟩

/-- All parts are read, up to the bracket that closes them. -/
theorem ReadsParts.read {parts? : Nat → Text → Option (List Read × Text)}
    (rounds : ReadsParts closing part? parts?) (each : ReadsEach closing SpellsPart part? image)
    (bracket : IsSolid closing ∧ EndsValue closing) {text : Text} {parts : List Part}
    (spelled : SpellsParts SpellsPart closing text parts) (rest : Text) {count : Nat}
    (enough : text.length < count) :
    parts? count (text ++ rest) = some (parts.map image, rest) := by
  -- A round for each part: behind its comma there is less left than before it.
  induction spelled generalizing count with
  | none isGap =>
      obtain ⟨count, rfl⟩ := Nat.exists_eq_add_one.2 (Nat.zero_lt_of_lt enough)
      apply rounds.none
      rw [List.append_assoc, List.singleton_append, skipTrivia_gap_solid isGap bracket.1]
  | last isBefore isPart isAfter =>
      obtain ⟨count, rfl⟩ := Nat.exists_eq_add_one.2 (Nat.zero_lt_of_lt enough)
      obtain ⟨first, others, left, start, opened, read, closed⟩ :=
        each.part isBefore isPart isAfter closing bracket rest
      simp only [List.append_assoc, List.singleton_append]
      exact rounds.last start opened read closed
  | @more before spelling after inside part parts isBefore isPart isAfter _ inductionHypothesis =>
      obtain ⟨count, rfl⟩ := Nat.exists_eq_add_one.2 (Nat.zero_lt_of_lt enough)
      have fewer : inside.length < count := by
        simp only [List.length_append, List.length_cons] at enough
        omega
      obtain ⟨first, others, left, start, opened, read, comma⟩ :=
        each.part isBefore isPart isAfter ',' (by decide) (inside ++ rest)
      simp only [List.append_assoc, List.cons_append]
      exact rounds.more start opened read comma (inductionHypothesis fewer)

end Parts

/-! ## Entries -/

/-- An entry as it is read: its key has one part. -/
def keyed (entry : Text × Value) : Key × Value :=
  (⟨[], entry.1⟩, entry.2)

theorem SpellsEntry.exists_first {SpellsValue : Text → Value → Prop} {spelling : Text}
    {entry : Text × Value} (spelled : SpellsEntry SpellsValue spelling entry) :
    ∃ first others, spelling = first :: others ∧ isKeyCharacter first = true := by
  obtain ⟨bare, -, -, -⟩ := spelled
  obtain ⟨first, others, rfl, inKey⟩ := bare.exists_first
  exact ⟨first, _, rfl, inKey⟩

/-- An entry is read if its value is. -/
theorem ReadsEach.entry {SpellsValue : Text → Value → Prop} {item? : Text → Option (Value × Text)}
    (each : ReadsEach ']' SpellsValue item? id) :
    ReadsEach '\x7d' (SpellsEntry SpellsValue) ( entry? item?) keyed where
  starts spelled := by
    obtain ⟨first, others, rfl, inKey⟩ := spelled.exists_first
    exact ⟨first, others, rfl, isSolid_of_isKeyCharacter inKey,
      ne_of_isKeyCharacter inKey (by decide)⟩
  reads {_ _ rest} spelled stops := by
    obtain @⟨key, before, after, spelling, value, bare, isBefore, isAfter, isValue⟩ := spelled
    have read := each.reads isValue stops
    obtain ⟨first, others, rfl, solid, -⟩ := each.starts isValue
    have noBlank : isBlank first = false := by
      rw [isBlank, Bool.or_eq_false_iff, beq_eq_false_iff_ne, beq_eq_false_iff_ne]
      exact ⟨fun same => solid (by rw [same]; decide), fun same => solid (by rw [same]; decide)⟩
    have start : skipBlanks (after ++ (first :: others ++ rest)) = first :: others ++ rest :=
      (skipBlanks_append isAfter _).trans (List.dropWhile_cons_of_neg (Bool.eq_false_iff.1 noBlank))
    unfold entry?
    rw [List.append_assoc, List.cons_append, key?_bare bare isBefore.isBlank, List.append_assoc]
    simp only [start, read]
    rfl

private theorem inlineTable?_keyed {entries : Entries} (distinct : (entries.map Prod.fst).Nodup) :
    inlineTable? (entries.map keyed) = some (.table .inline entries) := by
  have added : (entries.map keyed).foldlM (fun table (entry : Key × Value) =>
      addDotted? entry.1.path entry.1.last entry.2 .inline table) [] = some entries := by
    rw [List.foldlM_map]
    exact (foldlM_addEntry?_eq entries [] List.nodup_nil).trans (if_pos distinct)
  unfold inlineTable?
  rw [added]
  rfl

/-! ## Values -/

private theorem SpellsScalar.startsPart {spelling : Text} {value : Value}
    (spelled : SpellsScalar spelling value) : StartsPart ']' spelling := by
  cases spelled with
  | text spelled =>
      cases spelled with
      | basic => exact ⟨_, _, rfl, by decide, by decide⟩
      | literal => exact ⟨_, _, rfl, by decide, by decide⟩
  | integer spelled =>
      have proper := spelled.isScalarCharacter
      obtain ⟨first, others, rfl, -, -⟩ := spelled.shape
      have here := proper first List.mem_cons_self
      refine ⟨first, others, rfl, ?_, ?_⟩
      · intro skipped
        have outside : ∀ other ∈ triviaStarts, isScalarCharacter other = false :=
          List.all_iff_forall_prop.1 (by decide)
        rw [outside first skipped] at here
        exact Bool.noConfusion here
      · rintro rfl
        exact absurd here (by decide)
  | yes => exact ⟨_, _, rfl, by decide, by decide⟩
  | no => exact ⟨_, _, rfl, by decide, by decide⟩

theorem Spells.startsPart {depth : Nat} {spelling : Text} {value : Value}
    (spelled : Spells depth spelling value) : StartsPart ']' spelling := by
  cases depth with
  | zero => exact SpellsScalar.startsPart spelled
  | succ depth =>
      cases spelled with
      | scalar spelled => exact spelled.startsPart
      | array => exact ⟨_, _, rfl, by decide, by decide⟩
      | table => exact ⟨_, _, rfl, by decide, by decide⟩

/-- A value is read as what it stands for, up to its end. -/
theorem value?_spelled {depth limit : Nat} (within : depth ≤ limit) {spelling rest : Text}
    {value : Value} (spelled : Spells depth spelling value) (stops : StartsIn EndsValue rest) :
    value? limit (spelling ++ rest) = some (value, rest) := by
  -- The reader of what lies within a value has one level less to go.  It reads each part by the
  -- induction hypothesis, hence all of them.
  induction depth generalizing limit spelling value rest with
  | zero => exact value?_scalar spelled stops limit
  | succ depth inductionHypothesis =>
      obtain ⟨limit, rfl⟩ := Nat.exists_eq_add_one.2 (Nat.zero_lt_of_lt within)
      have each : ReadsEach ']' (Spells depth) (value? limit) id :=
        ⟨Spells.startsPart, inductionHypothesis (Nat.le_of_succ_le_succ within)⟩
      cases spelled with
      | scalar spelled => exact value?_scalar spelled stops _
      | @array inside items spelled =>
          have enough : inside.length < (inside ++ rest).length + 1 := by
            rw [List.length_append]
            omega
          have read := (readsParts_arrayItems? (value? limit)).read each (by decide) spelled
            rest enough
          rw [List.map_id] at read
          rw [List.cons_append, value?.eq_def]
          simp only [read]
      | @table inside entries spelled distinct =>
          have enough : inside.length < (inside ++ rest).length + 1 := by
            rw [List.length_append]
            omega
          have read := (readsParts_tableEntries? (value? limit)).read each.entry (by decide) spelled
            rest enough
          rw [List.cons_append, value?.eq_def]
          simp only [read, inlineTable?_keyed distinct]

/-! ## Documents -/

/-- Nothing stands before the first line that a document could not have there. -/
theorem SpellsDocument.startsIn {depth : Nat} {text : Text} {entries : Entries}
    (spelled : SpellsDocument depth text entries) :
    StartsIn (· ≠ '\uFEFF') text := by
  have skipped : ∀ character ∈ triviaStarts, character ≠ '\uFEFF' :=
    List.all_iff_forall_prop.1 (by decide)
  have ofLine : ∀ {line rest entry}, SpellsEntry (Spells depth) line entry →
      StartsIn (· ≠ '\uFEFF') (line ++ rest) := by
    intro line rest entry isLine
    obtain ⟨first, others, rfl, inKey⟩ := isLine.exists_first
    exact startsIn_cons (ne_of_isKeyCharacter inKey (by decide))
  cases spelled with
  | @nil gap remark isGap isRemark =>
      have start := isRemark.startsIn skipped startsIn_nil
      rw [List.append_nil] at start
      exact isGap.startsIn skipped start
  | last isGap isLine =>
      rw [List.append_assoc]
      exact isGap.startsIn skipped (ofLine isLine)
  | more isGap isLine =>
      simp only [List.append_assoc]
      exact isGap.startsIn skipped (ofLine isLine)

section Document

variable {depth : Nat} (within : depth ≤ nestingLimit)

include within

/-- One line is read as its assignment, and the rest of it has to finish the line. -/
theorem statement?_spelled {line rest : Text} {entry : Text × Value}
    (spelled : SpellsEntry (Spells depth) line entry) (stops : StartsIn EndsValue rest) :
    statement? (line ++ rest) =
      (finishLine? rest).map fun after => (.assignment [] entry.1 entry.2, after) := by
  have each : ReadsEach ']' (Spells depth) (value? nestingLimit) id :=
    ⟨Spells.startsPart, value?_spelled within⟩
  have read := each.entry.reads spelled stops
  obtain ⟨first, others, rfl, inKey⟩ := spelled.exists_first
  exact statement?_assignment inKey read

/-- One round over the lines: a line is read, and the others are left. -/
theorem statements?_line {gap line rest after : Text} {entry : Text × Value}
    {later : List Statement} (isGap : Gap gap) (spelled : SpellsEntry (Spells depth) line entry)
    (stops : StartsIn EndsValue rest) (finished : finishLine? rest = some after) {rounds : Nat}
    (others : statements? rounds after = some later) :
    statements? (rounds + 1) (gap ++ (line ++ rest)) =
      some (.assignment [] entry.1 entry.2 :: later) := by
  have read := statement?_spelled within spelled stops
  obtain ⟨first, more, rfl, inKey⟩ := spelled.exists_first
  have start : skipTrivia (gap ++ (first :: more ++ rest)) = first :: more ++ rest :=
    skipTrivia_gap_solid isGap (isSolid_of_isKeyCharacter inKey) _
  unfold statements?
  rw [start]
  rw [List.cons_append] at read ⊢
  simp only [read, finished, Option.map_some, others]

/-- The run over the lines, with a round to spare. -/
theorem statements?_spelled {text : Text} {entries : Entries}
    (spelled : SpellsDocument depth text entries) {rounds : Nat} (enough : text.length < rounds) :
    statements? rounds text =
      some (entries.map fun entry => .assignment [] entry.1 entry.2) := by
  induction spelled generalizing rounds with
  | nil isGap isRemark =>
      obtain ⟨rounds, rfl⟩ := Nat.exists_eq_add_one.2 (Nat.zero_lt_of_lt enough)
      unfold statements?
      rw [skipTrivia_gap _ isGap, skipTrivia_remark isRemark]
      rfl
  | last isGap isLine isTail =>
      -- The round after this line finds nothing, but it has to be there.
      obtain ⟨rounds, rfl⟩ := Nat.exists_eq_add_one.2 (Nat.zero_lt_of_lt enough)
      obtain ⟨first, others, shape, -⟩ := isLine.exists_first
      rw [shape] at enough
      simp only [List.length_append, List.length_cons] at enough
      obtain ⟨rounds, rfl⟩ := Nat.exists_eq_add_one.2 (show 0 < rounds by omega)
      have stops := isTail.startsIn endsValue_of_mem startsIn_nil
      rw [List.append_nil] at stops
      rw [List.append_assoc]
      exact statements?_line within isGap isLine stops (finishLine?_end isTail) rfl
  | @more gap line tail ending rest _ _ isGap isLine isTail isEnding _ inductionHypothesis =>
      obtain ⟨rounds, rfl⟩ := Nat.exists_eq_add_one.2 (Nat.zero_lt_of_lt enough)
      obtain ⟨first, others, shape, -⟩ := isLine.exists_first
      have fewer : rest.length < rounds := by
        rw [shape] at enough
        simp only [List.length_append, List.length_cons] at enough
        omega
      have stops : StartsIn EndsValue (tail ++ (ending ++ rest)) :=
        isTail.startsIn endsValue_of_mem (isEnding.startsIn endsValue_of_mem)
      simp only [List.append_assoc]
      exact statements?_line within isGap isLine stops (finishLine?_line isTail isEnding _)
        (inductionHypothesis fewer)

/-- A document is read as its entries if no key is repeated, and refused otherwise. -/
theorem read?_spelled {text : Text} {entries : Entries}
    (spelled : SpellsDocument depth text entries) :
    read? text = if (entries.map Prod.fst).Nodup then some entries else none := by
  have noMark : skipByteOrderMark text = text := by
    apply skipByteOrderMark.eq_2
    rintro rest rfl
    exact spelled.startsIn '\uFEFF' rfl rfl
  unfold read?
  dsimp only
  rw [noMark, statements?_spelled within spelled (Nat.lt_succ_self _), Option.bind_some,
    entriesOf?_assignments]

end Document

end DocSamples.Toml
