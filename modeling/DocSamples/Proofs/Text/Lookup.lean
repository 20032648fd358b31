import Mathlib.Data.List.Nodup

/-!
Contract: entries looked up by their keys.

Owns:
- what is found in a list of entries, against what is in it;
- that entries under other keys may be left out.
-/

namespace DocSamples

variable {Key Value : Type} [BEq Key] [LawfulBEq Key] {entries : List (Key × Value)} {key : Key}

theorem lookup_eq_none_iff : entries.lookup key = none ↔ key ∉ entries.map Prod.fst := by
  rw [List.lookup_eq_none_iff, List.mem_map, not_exists]
  refine forall_congr' fun entry => ?_
  rw [not_and, bne_iff_ne]
  exact forall_congr' fun _ => not_congr eq_comm

private theorem mem_of_lookup {value : Value} (found : entries.lookup key = some value) :
    (key, value) ∈ entries := by
  obtain ⟨before, after, shape, -⟩ := List.lookup_eq_some_iff.1 found
  rw [shape]
  exact List.mem_append_right _ List.mem_cons_self

/-- Where no key is repeated, what is under a key is found. -/
theorem lookup_of_mem {value : Value} (distinct : (entries.map Prod.fst).Nodup)
    (member : (key, value) ∈ entries) : entries.lookup key = some value := by
  cases found : entries.lookup key with
  | none => exact absurd (List.mem_map_of_mem member) (lookup_eq_none_iff.1 found)
  | some other =>
      have same := List.inj_on_of_nodup_map distinct (mem_of_lookup found) member rfl
      exact congrArg (fun entry => some entry.2) same

theorem lookup_filter {keep : Key × Value → Bool}
    (kept : ∀ entry ∈ entries, entry.1 = key → keep entry = true) :
    (entries.filter keep).lookup key = entries.lookup key := by
  induction entries with
  | nil => rfl
  | cons entry entries inductionHypothesis =>
      have later := inductionHypothesis fun other member =>
        kept other (List.mem_cons_of_mem _ member)
      obtain ⟨name, node⟩ := entry
      by_cases same : name = key
      · subst same
        have keepIt : keep (name, node) = true := kept _ List.mem_cons_self rfl
        rw [List.filter_cons_of_pos keepIt, List.lookup_cons_self, List.lookup_cons_self]
      · have differ : (key == name) = false := by
          rw [beq_eq_false_iff_ne]
          exact fun equal => same equal.symm
        rw [List.lookup_cons, differ, ← later]
        cases keepIt : keep (name, node) with
        | true => rw [List.filter_cons_of_pos keepIt, List.lookup_cons, differ]
        | false => rw [List.filter_cons_of_neg (by simp [keepIt])]

end DocSamples
