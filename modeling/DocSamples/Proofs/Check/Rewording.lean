import DocSamples.Proofs.Check.Record
import DocSamples.Proofs.Sample.Rewording

/-!
Contract: prose has no influence on the check of documents.

Owns:
- items and streams that differ in nothing but the wording of their prose;
- streams that leave no record of what they give;
- the check of two such streams, which is the same.

The console, the runner and the world are arbitrary, so nothing that is printed, logged or
called can tell the two streams apart.
-/

namespace DocSamples

/-- The same loss, or documents of one name whose texts differ in prose. -/
inductive Fetched.DiffersInProse : Fetched → Fetched → Prop where
  | lost (error : SourceError) : Fetched.DiffersInProse (.error error) (.error error)
  | document (name : Text) {text other : Text}
      (differs : DocSamples.DiffersInProse text other) :
      Fetched.DiffersInProse (.ok ⟨name, text⟩) (.ok ⟨name, other⟩)

/-- Streams that look alike: in every world a look gives items that differ in prose, or
nothing in both, leaves the same world, and streams of the same kind remain. -/
inductive Documents.DiffersInProse {World : Type} : Documents World → Documents World → Prop where
  | done : Documents.DiffersInProse .done .done
  | look {visit otherVisit : World → Option Fetched × World}
      {rest otherRest : World → Documents World}
      (items : ∀ world, Option.Rel Fetched.DiffersInProse (visit world).1 (otherVisit world).1)
      (worlds : ∀ world, (otherVisit world).2 = (visit world).2)
      (later : ∀ world, Documents.DiffersInProse (rest world) (otherRest world)) :
      Documents.DiffersInProse (.look visit rest) (.look otherVisit otherRest)

private theorem Documents.differsInProse_ofList {World : Type} {items others : List Fetched}
    (differ : List.Forall₂ Fetched.DiffersInProse items others) :
    (ofList items : Documents World).DiffersInProse (ofList others) := by
  induction differ with
  | nil => exact .done
  | cons item _ inductionHypothesis =>
      exact .look (fun _ => .some item) (fun _ => rfl) fun _ => inductionHypothesis

def Documents.unrecorded {World : Type} : Documents World → Documents (Recorded World)
  | .done => .done
  | .look visit rest =>
    .look (fun state => ((visit state.world).1, ⟨(visit state.world).2, state.events⟩))
      fun state => (rest state.world).unrecorded

private theorem Documents.DiffersInProse.unrecorded {World : Type}
    {documents others : Documents World}
    (differ : documents.DiffersInProse others) :
    documents.unrecorded.DiffersInProse others.unrecorded := by
  induction differ with
  | done => exact .done
  | look items worlds _ inductionHypothesis =>
      refine .look (fun state => items state.world) (fun state => ?_)
        fun state => inductionHypothesis state.world
      rw [worlds]

namespace Console

variable {World : Type} (console : Console World) (runner : Runner World)

private theorem checkDocument_of_differsInProse (name : Text) {text other : Text}
    (differs : DocSamples.DiffersInProse text other) :
    console.checkDocument runner ⟨name, other⟩ = console.checkDocument runner ⟨name, text⟩ := by
  funext summary world
  unfold checkDocument
  rw [extract_of_differsInProse differs]

private theorem checkFrom_of_differsInProse {documents others : Documents World}
    (differ : documents.DiffersInProse others) (summary : Summary) (world : World) :
    console.checkFrom runner others summary world =
      console.checkFrom runner documents summary world := by
  induction differ generalizing summary world with
  | done => rfl
  | @look visit otherVisit rest otherRest items worlds later inductionHypothesis =>
      have item := items world
      have left := worlds world
      rcases looked : visit world with ⟨fetched?, after⟩
      rcases otherLooked : otherVisit world with ⟨otherFetched?, otherAfter⟩
      rw [looked, otherLooked] at item left
      obtain rfl : otherAfter = after := left
      cases item with
      | none =>
          simp only [checkFrom, looked, otherLooked]
          exact inductionHypothesis world summary otherAfter
      | some related =>
          cases related with
          | lost error => simp only [checkFrom, looked, otherLooked]
          | document name differs =>
              simp only [checkFrom, looked, otherLooked, announce,
                console.checkDocument_of_differsInProse runner name differs, inductionHypothesis]

/-- **Prose does not influence what is checked.**  Two texts that differ in nothing but the
wording of their prose have the same samples.  The check of two streams of such documents,
with the same console and the same runner, answers the same and leaves the same world, and
its record of what is printed and called is the same. -/
theorem check_of_differsInProse :
    (∀ text other, DocSamples.DiffersInProse text other → extract other = extract text) ∧
    ∀ documents others : Documents World, documents.DiffersInProse others → ∀ world,
      console.check runner others world = console.check runner documents world ∧
        console.recorded.check runner.recorded others.unrecorded ⟨world, []⟩ =
          console.recorded.check runner.recorded documents.unrecorded ⟨world, []⟩ := by
  refine ⟨fun _ _ => extract_of_differsInProse, fun documents others differ world => ?_⟩
  constructor
  · exact console.checkFrom_of_differsInProse runner differ {} world
  · exact console.recorded.checkFrom_of_differsInProse runner.recorded differ.unrecorded {} _

/-- An indented line under prose goes with the prose, and the sample below stays. -/
theorem check_of_differsInProse_guide :
    let text := "A\n    x\n\n    a()\nB".toList
    let other := "Alpha\n  y\n\n    a()\nInput:".toList
    let documents : Documents Unit := .ofList [.ok ⟨"guide.md".toList, text⟩]
    let others : Documents Unit := .ofList [.ok ⟨"guide.md".toList, other⟩]
    let console : Console Unit := ⟨fun _ _ => (), fun _ _ => (), fun _ _ _ => ()⟩
    let runner : Runner Unit := fun _ _ _ => (.ok (.exited 0), ())
    DocSamples.DiffersInProse text other ∧ documents.DiffersInProse others ∧
      extract other = extract text ∧
      console.check runner others () = console.check runner documents () ∧
        console.recorded.check runner.recorded others.unrecorded ⟨(), []⟩ =
          console.recorded.check runner.recorded documents.unrecorded ⟨(), []⟩ := by
  intro text other documents others console runner
  have cut : lines text = ["A", "    x", "", "    a()", "B"].map String.toList := by decide
  have otherCut : lines other = ["Alpha", "  y", "", "    a()", "Input:"].map String.toList := by
    decide
  have differs : DocSamples.DiffersInProse text other := by
    unfold DocSamples.DiffersInProse
    rw [cut, otherCut]
    exact fun
      | 0 => .inr ⟨by decide, ⟨"Alpha".toList, by decide, by decide, by decide⟩, rfl⟩
      | 1 => .inr ⟨by decide, ⟨"  y".toList, by decide, by decide, by decide⟩, rfl⟩
      | 2 => .inl rfl
      | 3 => .inl rfl
      | 4 => .inr ⟨by decide, ⟨"Input:".toList, by decide, by decide, by decide⟩, rfl⟩
      | _ + 5 => .inl rfl
  have differ : documents.DiffersInProse others :=
    Documents.differsInProse_ofList (.cons (.document _ differs) .nil)
  obtain ⟨samples, checks⟩ := check_of_differsInProse console runner
  exact ⟨differs, differ, samples text other differs, checks documents others differ ()⟩

end Console

end DocSamples
