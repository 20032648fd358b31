import DocSamples.Proofs.Check.Trace

/-!
Contract: what a check is seen to do.

Owns:
- worlds that record what a check does in them (`Recorded`);
- the record of a check: the full trace up to its first failing step.

A console, a runner and a stream each come with a recording form over the same world;
nothing but the record tells the two apart.
-/

namespace DocSamples

/-! ## Worlds that record -/

/-- A world beside what a check has done in it, in order. -/
structure Recorded (World : Type) where
  world : World
  events : List CheckEvent

def Console.recorded {World : Type} (console : Console World) : Console (Recorded World) where
  print text state := ⟨console.print text state.world, state.events ++ [.print text]⟩
  printError text state := ⟨console.printError text state.world, state.events ++ [.print text]⟩
  log level text state := ⟨console.log level text state.world, state.events⟩

def Runner.recorded {World : Type} (runner : Runner World) : Runner (Recorded World) :=
  fun mode code state =>
    let answered := runner mode code state.world
    (answered.1, ⟨answered.2, state.events ++ [.call mode code]⟩)

private theorem Runner.recorded_apply {World : Type} (runner : Runner World) (mode : Mode)
    (code : Text)
    (world : World) (events : List CheckEvent) :
    runner.recorded mode code ⟨world, events⟩ =
      ((runner mode code world).1,
        ⟨(runner mode code world).2, events ++ [.call mode code]⟩) := rfl

/-- A stream that records what it is asked for: each item that it gives, and its end,
which takes one more look. -/
def Documents.recorded {World : Type} : Documents World → Documents (Recorded World)
  | .done => .cons (fun state => (none, ⟨state.world, state.events ++ [.pull none]⟩)) .done
  | .look visit rest =>
    .look
      (fun state =>
        match visit state.world with
        | (none, after) => (none, ⟨after, state.events⟩)
        | (some fetched, after) =>
          (some fetched, ⟨after, state.events ++ [.pull (some fetched)]⟩))
      fun state => (rest state.world).recorded

namespace Console

variable {World : Type} (console : Console World) (runner : Runner World)

private theorem logSample_recorded (file : Text) (sample : Sample) (world : World)
    (events : List CheckEvent) :
    console.recorded.logSample file sample ⟨world, events⟩ =
      ⟨console.logSample file sample world, events⟩ := rfl

theorem announce_recorded (document : Document) (world : World) (events : List CheckEvent) :
    console.recorded.announce document ⟨world, events⟩ =
      ⟨console.announce document world,
        events ++ [CheckStep.event (.announce document)]⟩ := rfl

/-- Of the samples of a document, a check runs those up to the first that fails. -/
theorem checkSamples_recorded (document : Document) (samples : List Sample) (summary : Summary)
    (world : World) (events : List CheckEvent) :
    console.recorded.checkSamples runner.recorded document.name samples summary ⟨world, events⟩ =
      let checked := console.checkSamples runner document.name samples summary world
      let steps := (console.sampleSteps runner document samples world).1
      (checked.1, checked.2.1,
        ⟨checked.2.2, events ++ (throughFirst CheckStep.fails steps).map CheckStep.event⟩) := by
  induction samples generalizing summary world events with
  | nil => simp [checkSamples, sampleSteps, throughFirst]
  | cons sample samples inductionHypothesis =>
      rcases answered : runner (classify sample.code) sample.code
        (console.logSample document.name sample world) with ⟨answer, after⟩
      have called : runner.recorded (classify sample.code) sample.code
          (console.recorded.logSample document.name sample ⟨world, events⟩) =
            (answer, ⟨after, events ++ [.call (classify sample.code) sample.code]⟩) := by
        rw [logSample_recorded, Runner.recorded_apply, answered]
      rw [checkSamples_cons, checkSamples_cons, called, answered]
      simp only [sampleSteps, answered, throughFirst, ← CheckStep.isSome_failure?]
      cases failure : CheckStep.failure? (.call document sample answer) with
      | some error => simp [CheckStep.event]
      | none => simp [inductionHypothesis, CheckStep.event]

/-- Checking a stream in a recording world: the answer and the world are those of the
plain check, and the record grows by the full trace up to its first failing step. -/
theorem checkFrom_recorded (documents : Documents World) (summary : Summary) (world : World)
    (events : List CheckEvent) :
    console.recorded.checkFrom runner.recorded documents.recorded summary ⟨world, events⟩ =
      let checked := console.checkFrom runner documents summary world
      let steps := console.fullTrace runner documents world
      (checked.1,
        ⟨checked.2, events ++ (throughFirst CheckStep.fails steps).map CheckStep.event⟩) := by
  induction documents generalizing summary world events with
  | done => rfl
  | look visit rest inductionHypothesis =>
      rcases looked : visit world with ⟨_ | _ | document, after⟩
      · simp [checkFrom, Documents.recorded, looked, fullTrace, inductionHypothesis]
      · simp [checkFrom, Documents.recorded, looked, fullTrace, throughFirst, CheckStep.fails,
          CheckStep.event]
      · have announced := console.checkSamples_recorded runner document (extract document.text)
          summary (console.announce document after)
          (events ++ [.pull (some (.ok document)), CheckStep.event (.announce document)])
        have fails := CheckStep.any_fails (console.sampleSteps runner document
          (extract document.text) (console.announce document after)).1
        simp only [checkFrom, Documents.recorded, looked, fullTrace, throughFirst,
          CheckStep.fails, checkDocument, announce_recorded, List.append_assoc,
          List.singleton_append, announced, Bool.false_eq_true, ↓reduceIte]
        -- The record stops within this document exactly if the check does.
        cases found : (console.sampleSteps runner document (extract document.text)
          (console.announce document after)).1.findSome? CheckStep.failure? with
        | none =>
            rw [found] at fails
            rw [throughFirst_append_of_not_any _ _ _ fails, throughFirst_of_not_any _ _ fails,
              console.checkSamples_of_passing runner document _ summary _ found]
            simp [inductionHypothesis, CheckStep.event]
        | some error =>
            rw [found] at fails
            obtain ⟨counted, ended, checked⟩ :=
              console.checkSamples_of_failing runner document _ summary _ found
            rw [throughFirst_append_of_any _ _ _ fails, checked]
            simp [CheckStep.event]

/-- **A check does what its full trace says, up to the first step that fails.**  Run in a
recording world, it answers and leaves the world as it does otherwise, and its record is the
shortest beginning of the full trace that ends with a failing step, or the whole trace if no
step fails.  The full trace is what the items of the stream cause, in their order, with the
pull that finds the end; a stream over a list has the members of the list as its items. -/
theorem check_events (documents : Documents World) (world : World) :
    console.recorded.check runner.recorded documents.recorded ⟨world, []⟩ =
      ((console.check runner documents world).1,
        ⟨(console.check runner documents world).2,
          (throughFirst CheckStep.fails (console.fullTrace runner documents world)).map
            CheckStep.event⟩) ∧
    (console.fullTrace runner documents world).map CheckStep.event =
      (pulledItems (console.fullTrace runner documents world)).flatMap eventsOfItem ++
        [.pull none] ∧
    ∀ items, pulledItems (console.fullTrace runner (.ofList items) world) = items := by
  refine ⟨?_, console.fullTrace_events runner documents world, fun items => ?_⟩
  · exact console.checkFrom_recorded runner documents {} world []
  · exact console.pulledItems_ofList runner items world

end Console

end DocSamples
