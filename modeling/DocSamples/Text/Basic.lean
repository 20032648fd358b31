/-!
Contract: the raw data that every other module speaks about.

Owns:
- texts, as lists of characters;
- byte strings, as lists of bytes;
- cutting a list at a separator and the equations of that cut.

Does not own: any decoding between the two (`Text/Utf8`) or any character
class (`Text/Blank`, `Text/Word`).
-/

namespace DocSamples

/-- A text is the list of its characters; every rule of this library reads a
text one character at a time. -/
abbrev Text := List Char

abbrev Bytes := List UInt8

def consFirst {α : Type} (head : α) : List (List α) → List (List α)
  | [] => [[head]]
  | piece :: pieces => (head :: piece) :: pieces

/-- The pieces of a list between the occurrences of a separator.  There is
always one piece more than there are separators, so the empty list has one
empty piece. -/
def splitAt {α : Type} [BEq α] (separator : α) : List α → List (List α)
  | [] => [[]]
  | head :: tail =>
    if head == separator then [] :: splitAt separator tail
    else consFirst head (splitAt separator tail)

def joinWith {α : Type} (separator : α) : List (List α) → List α
  | [] => []
  | [piece] => piece
  | piece :: next :: pieces => piece ++ separator :: joinWith separator (next :: pieces)

private theorem consFirst_ne_nil {α : Type} (head : α) (pieces : List (List α)) :
    consFirst head pieces ≠ [] := by
  cases pieces <;> simp [consFirst]

theorem splitAt_ne_nil {α : Type} [BEq α] (separator : α) (list : List α) :
    splitAt separator list ≠ [] := by
  cases list with
  | nil => simp [splitAt]
  | cons head tail =>
    simp only [splitAt]
    split
    · simp
    · exact consFirst_ne_nil _ _

private theorem consFirst_append {α : Type} (head : α) (pieces more : List (List α))
    (nonempty : pieces ≠ []) :
    consFirst head (pieces ++ more) = consFirst head pieces ++ more := by
  cases pieces with
  | nil => exact absurd rfl nonempty
  | cons piece pieces => rfl

/-- There is one piece more than there are separators. -/
theorem length_splitAt {α : Type} [BEq α] (separator : α) (list : List α) :
    (splitAt separator list).length = list.count separator + 1 := by
  induction list with
  | nil => rfl
  | cons head tail inductionHypothesis =>
      rw [splitAt, List.count_cons]
      split
      · rw [List.length_cons, inductionHypothesis]
      · rcases shape : splitAt separator tail with _ | ⟨piece, pieces⟩
        · exact absurd shape (splitAt_ne_nil _ _)
        · rw [shape] at inductionHypothesis
          exact inductionHypothesis

/-- An element of two joined lists stands in the first or in the second. -/
theorem append_cons_eq_append {α : Type} {front back left right : List α} {element : α}
    (joined : front ++ element :: back = left ++ right) :
    (∃ tail, left = front ++ element :: tail ∧ back = tail ++ right) ∨
      ∃ middle, front = left ++ middle ∧ right = middle ++ element :: back := by
  rcases List.append_eq_append_iff.1 joined with ⟨tail, inLeft, others⟩ | ⟨middle, inFront, others⟩
  · cases tail with
    | nil =>
        right
        exact ⟨[], by rw [inLeft, List.append_nil, List.append_nil], others.symm⟩
    | cons first tail =>
        rw [List.cons_append, List.cons.injEq] at others
        left
        exact ⟨tail, by rw [inLeft, others.1], others.2⟩
  · right
    exact ⟨middle, inFront, others⟩

section Pieces

variable {α : Type} [BEq α] [LawfulBEq α]

/-- A separator cuts: the pieces of the two sides are the pieces of the whole. -/
theorem splitAt_append_separator (separator : α) (front back : List α) :
    splitAt separator (front ++ separator :: back) =
      splitAt separator front ++ splitAt separator back := by
  induction front with
  | nil => simp [splitAt]
  | cons head tail inductionHypothesis =>
      simp only [List.cons_append, splitAt, inductionHypothesis]
      split
      · rfl
      · exact consFirst_append _ _ _ (splitAt_ne_nil _ _)

/-- Without a separator there is one piece. -/
theorem splitAt_of_notMem (separator : α) {list : List α} (absent : separator ∉ list) :
    splitAt separator list = [list] := by
  induction list with
  | nil => rfl
  | cons head tail inductionHypothesis =>
      rw [List.mem_cons, not_or] at absent
      have differs : (head == separator) = false := by
        rw [beq_eq_false_iff_ne]
        exact fun equal => absent.1 equal.symm
      simp [splitAt, differs, inductionHypothesis absent.2, consFirst]

/-- No piece holds the separator. -/
theorem notMem_of_mem_splitAt (separator : α) {list piece : List α}
    (member : piece ∈ splitAt separator list) : separator ∉ piece := by
  induction list generalizing piece with
  | nil => simp_all [splitAt]
  | cons head tail inductionHypothesis =>
      simp only [splitAt] at member
      split at member
      next =>
        rcases List.mem_cons.1 member with rfl | later
        · simp
        · exact inductionHypothesis later
      next differs =>
        rcases shape : splitAt separator tail with _ | ⟨first, others⟩
        · exact absurd shape (splitAt_ne_nil _ _)
        · rw [shape, consFirst, List.mem_cons] at member
          rw [shape] at inductionHypothesis
          rcases member with rfl | later
          · have notInFirst : separator ∉ first := inductionHypothesis List.mem_cons_self
            rw [List.mem_cons, not_or]
            exact ⟨fun equal => differs (beq_iff_eq.2 equal.symm), notInFirst⟩
          · exact inductionHypothesis (List.mem_cons_of_mem _ later)

/-- Cutting undoes joining, as long as no piece holds the separator. -/
theorem splitAt_joinWith (separator : α) {pieces : List (List α)} (nonempty : pieces ≠ [])
    (absent : ∀ piece ∈ pieces, separator ∉ piece) :
    splitAt separator (joinWith separator pieces) = pieces := by
  induction pieces with
  | nil => exact absurd rfl nonempty
  | cons piece pieces inductionHypothesis =>
      have here : separator ∉ piece := absent piece List.mem_cons_self
      cases pieces with
      | nil => exact splitAt_of_notMem separator here
      | cons next pieces =>
          have later := inductionHypothesis (List.cons_ne_nil _ _)
            fun other member => absent other (List.mem_cons_of_mem _ member)
          rw [joinWith, splitAt_append_separator, splitAt_of_notMem separator here, later]
          rfl

/-- Joining undoes cutting. -/
theorem joinWith_splitAt (separator : α) (list : List α) :
    joinWith separator (splitAt separator list) = list := by
  induction list with
  | nil => rfl
  | cons head tail inductionHypothesis =>
      rw [splitAt]
      rcases shape : splitAt separator tail with _ | ⟨piece, pieces⟩
      · exact absurd shape (splitAt_ne_nil _ _)
      · rw [shape] at inductionHypothesis
        split
        next isSeparator =>
          rw [joinWith, inductionHypothesis, beq_iff_eq.1 isSeparator]
          rfl
        next =>
          rw [consFirst, ← inductionHypothesis]
          cases pieces with
          | nil => rfl
          | cons next pieces => rfl

/-- Cutting pieces that each end in the separator gives the pieces and an empty one. -/
theorem splitAt_terminated (separator : α) {pieces : List (List α)}
    (absent : ∀ piece ∈ pieces, separator ∉ piece) :
    splitAt separator (pieces.flatMap (· ++ [separator])) = pieces ++ [[]] := by
  induction pieces with
  | nil => rfl
  | cons piece pieces inductionHypothesis =>
      have here : separator ∉ piece := absent piece List.mem_cons_self
      have later := inductionHypothesis fun other member =>
        absent other (List.mem_cons_of_mem _ member)
      rw [List.flatMap_cons, List.append_assoc, List.singleton_append,
        splitAt_append_separator, splitAt_of_notMem separator here, later]
      rfl

end Pieces

/-- The lines of a text: its pieces between line feeds.  No other character
ends a line. -/
def lines (text : Text) : List Text :=
  splitAt '\n' text

def endsWith (suffix text : Text) : Bool :=
  suffix.isSuffixOf text

def decimal (number : Nat) : Text :=
  (Nat.repr number).toList

end DocSamples
