import DocSamples.Proofs.Check.Script

/-!
Contract: the counts of a check against the calls that it makes.

Owns:
- worlds that keep the calls of a runner, with the answers to them (`Called`);
- documents that are checked in turn, going on after errors (`Console.checkEach`);
- the step: what the check of one document adds to the calls and to the counts;
- the run: the calls and the counts after each of many documents.

A call that is answered with a status is counted, whatever the status is; a call that is
answered with an error of the tool is not.  So the counts never exceed the calls, also where
documents fail in different ways.
-/

namespace DocSamples

/-! ## Calls -/

structure RunnerCall where
  mode : Mode
  code : Text
  answer : Except ToolError Status

namespace RunnerCall

def isAnswered (call : RunnerCall) : Bool :=
  call.answer.isOk

def asked (call : RunnerCall) : Mode × Text :=
  (call.mode, call.code)

def passing (sample : Sample) : RunnerCall :=
  ⟨classify sample.code, sample.code, .ok (.exited 0)⟩

end RunnerCall

namespace Summary

def countCalls (summary : Summary) (calls : List RunnerCall) : Summary :=
  calls.foldl (fun counts call => counts.countAnswer call.mode call.answer) summary

private theorem countCalls_append (summary : Summary) (front back : List RunnerCall) :
    summary.countCalls (front ++ back) = (summary.countCalls front).countCalls back :=
  List.foldl_append

private theorem countCalls_eq (summary : Summary) (calls : List RunnerCall) :
    summary.countCalls calls =
      { files := summary.files
        samples := summary.samples + calls.countP RunnerCall.isAnswered
        compileOnly := summary.compileOnly +
          calls.countP fun call => call.isAnswered && call.mode = .compileOnly } := by
  induction calls generalizing summary with
  | nil => rfl
  | cons call calls inductionHypothesis =>
      have onward : summary.countCalls (call :: calls) =
          (summary.countAnswer call.mode call.answer).countCalls calls := rfl
      rw [onward, inductionHypothesis, List.countP_cons, List.countP_cons]
      cases answer : call.answer with
      | error error => simp [countAnswer, RunnerCall.isAnswered, answer, Except.isOk, Except.toBool]
      | ok status =>
          simp only [countAnswer, countSample, RunnerCall.isAnswered, answer, Except.isOk,
            Except.toBool, Bool.true_and, decide_eq_true_eq, mk.injEq, true_and, ↓reduceIte]
          constructor
          · omega
          · omega

end Summary

/-! ## Worlds that keep calls -/

structure Called (World : Type) where
  world : World
  calls : List RunnerCall

def Console.called {World : Type} (console : Console World) : Console (Called World) where
  print text state := ⟨console.print text state.world, state.calls⟩
  printError text state := ⟨console.printError text state.world, state.calls⟩
  log level text state := ⟨console.log level text state.world, state.calls⟩

def Runner.called {World : Type} (runner : Runner World) : Runner (Called World) :=
  fun mode code state =>
    let answered := runner mode code state.world
    (answered.1, ⟨answered.2, state.calls ++ [⟨mode, code, answered.1⟩]⟩)

/-! ## One document -/

private theorem CheckStep.failure?_call_eq_none_iff {document : Document} {sample : Sample}
    {answer : Except ToolError Status} :
    failure? (.call document sample answer) = none ↔ answer = .ok (.exited 0) := by
  cases answer with
  | error error => simp [failure?]
  | ok status => simp [failure?]

/-- What the check of some samples does: its calls are for the samples in their order, they
are what it counts, and it passes exactly if all samples were called and passed. -/
structure Tallies (samples : List Sample) (calls : List RunnerCall) (before after : Summary)
    (answer : Except CheckError Unit) : Prop where
  ordered : calls.map RunnerCall.asked <+:
    samples.map fun sample => (classify sample.code, sample.code)
  counted : after = before.countCalls calls
  passes_iff : answer = .ok () ↔ calls = samples.map RunnerCall.passing

private theorem Runner.called_apply {World : Type} (runner : Runner World) (mode : Mode)
    (code : Text)
    (world : World) (calls : List RunnerCall) :
    runner.called mode code ⟨world, calls⟩ =
      ((runner mode code world).1,
        ⟨(runner mode code world).2, calls ++ [⟨mode, code, (runner mode code world).1⟩]⟩) := rfl

namespace Console

variable {World : Type} (console : Console World) (runner : Runner World)

private theorem logSample_called (file : Text) (sample : Sample) (world : World)
    (calls : List RunnerCall) :
    console.called.logSample file sample ⟨world, calls⟩ =
      ⟨console.logSample file sample world, calls⟩ := rfl

/-- The step: the check of samples keeps the calls that it makes, and counts them. -/
theorem checkSamples_called (document : Document) (samples : List Sample) (summary : Summary)
    (world : World) (earlier : List RunnerCall) :
    let checked := console.checkSamples runner document.name samples summary world
    ∃ calls : List RunnerCall,
      Tallies samples calls summary checked.2.1 checked.1 ∧
      console.called.checkSamples runner.called document.name samples summary ⟨world, earlier⟩ =
        (checked.1, checked.2.1, ⟨checked.2.2, earlier ++ calls⟩) := by
  induction samples generalizing summary world earlier with
  | nil =>
      refine ⟨[], ⟨List.nil_prefix, rfl, ?_⟩, ?_⟩
      · simp [checkSamples]
      · simp [checkSamples]
  | cons sample samples inductionHypothesis =>
      intro checked
      rcases answered : runner (classify sample.code) sample.code
        (console.logSample document.name sample world) with ⟨answer, after⟩
      let call : RunnerCall := ⟨classify sample.code, sample.code, answer⟩
      have kept : runner.called (classify sample.code) sample.code
          (console.called.logSample document.name sample ⟨world, earlier⟩) =
            (answer, ⟨after, earlier ++ [call]⟩) := by
        rw [logSample_called, Runner.called_apply, answered]
      have plainly := console.checkSamples_cons runner document sample samples summary world
      have calledly := console.called.checkSamples_cons runner.called document sample samples
        summary ⟨world, earlier⟩
      rw [answered] at plainly
      rw [kept] at calledly
      dsimp only at plainly calledly
      have checkedEq : checked = _ := plainly
      rw [checkedEq, calledly]
      cases failure : CheckStep.failure? (.call document sample answer) with
      | some error =>
          -- The first failure is the last call.
          have failed : answer ≠ .ok (.exited 0) := by
            intro passed
            rw [CheckStep.failure?_call_eq_none_iff.2 passed] at failure
            exact absurd failure (by simp)
          refine ⟨[call], ⟨?_, rfl, ?_⟩, rfl⟩
          · exact List.cons_prefix_cons.2 ⟨rfl, List.nil_prefix⟩
          · constructor
            · intro passed
              exact absurd passed (by simp)
            · intro all
              have passed : call = RunnerCall.passing sample := (List.cons.inj all).1
              exact absurd (congrArg RunnerCall.answer passed) failed
      | none =>
          obtain rfl := CheckStep.failure?_call_eq_none_iff.1 failure
          obtain ⟨calls, tallies, goesOn⟩ :=
            inductionHypothesis (summary.countSample (classify sample.code)) after
              (earlier ++ [call])
          refine ⟨call :: calls, ⟨?_, ?_, ?_⟩, ?_⟩
          · exact List.cons_prefix_cons.2 ⟨rfl, tallies.ordered⟩
          · exact tallies.counted
          · rw [List.map_cons, List.cons.injEq]
            have first : call = RunnerCall.passing sample := rfl
            simp only [first, true_and]
            exact tallies.passes_iff
          · refine goesOn.trans ?_
            rw [List.append_assoc, List.singleton_append]
            rfl

end Console

/-! ## Many documents -/

/-- What the check of a document comes to: its answer, and the counts and the world after
it. -/
structure Checked (World : Type) where
  answer : Except CheckError Unit
  summary : Summary
  world : World

def Checked.plain {World : Type} (checked : Checked (Called World)) : Checked World :=
  ⟨checked.answer, checked.summary, checked.world.world⟩

namespace Console

variable {World : Type} (console : Console World) (runner : Runner World)

/-- Check documents in turn, with one summary, whatever the check of each answers. -/
def checkEach : List Document → Summary → World → List (Checked World)
  | [], _, _ => []
  | document :: documents, summary, world =>
    let checked := console.checkDocument runner document summary world
    ⟨checked.1, checked.2.1, checked.2.2⟩ :: checkEach documents checked.2.1 checked.2.2

private theorem length_checkEach (documents : List Document) (summary : Summary) (world : World) :
    (console.checkEach runner documents summary world).length = documents.length := by
  induction documents generalizing summary world with
  | nil => rfl
  | cons document documents inductionHypothesis =>
      rw [checkEach, List.length_cons, inductionHypothesis, List.length_cons]

/-- The run: keeping the calls changes nothing, and after each document the counts are those
of all calls so far.  The calls of the document itself tell whether it passed. -/
theorem checkEach_called (documents : List Document) (summary : Summary) (world : World)
    (earlier : List RunnerCall) :
    let steps := console.called.checkEach runner.called documents summary ⟨world, earlier⟩
    steps.map Checked.plain = console.checkEach runner documents summary world ∧
    ∀ (index : Nat) (step : Checked (Called World)), steps[index]? = some step →
      (∃ soFar, step.world.calls = earlier ++ soFar ∧ step.summary = summary.countCalls soFar) ∧
      ∃ (document : Document) (before calls : List RunnerCall) (counts : Summary),
        documents[index]? = some document ∧
        (earlier :: steps.map fun left => left.world.calls)[index]? = some before ∧
        step.world.calls = before ++ calls ∧
        Tallies (extract document.text) calls counts step.summary step.answer := by
  induction documents generalizing summary world earlier with
  | nil =>
      refine ⟨rfl, fun index step found => ?_⟩
      exact absurd found (by simp [checkEach])
  | cons document documents inductionHypothesis =>
      obtain ⟨calls, tallies, checked⟩ :=
        console.checkSamples_called runner document (extract document.text) summary world earlier
      rcases left : console.checkSamples runner document.name (extract document.text) summary
        world with ⟨answer, counts, after⟩
      rw [left] at tallies checked
      dsimp only at tallies checked
      obtain ⟨plain, later⟩ := inductionHypothesis counts after (earlier ++ calls)
      simp only [checkEach, checkDocument, left, checked]
      refine ⟨congrArg (List.cons _) plain, fun index step found => ?_⟩
      cases index with
      | zero =>
          obtain rfl := Option.some.inj found
          exact ⟨⟨calls, rfl, tallies.counted⟩, document, earlier, calls, summary, rfl, rfl, rfl,
            tallies⟩
      | succ index =>
          obtain ⟨⟨soFar, called, counted⟩, own⟩ := later index step found
          refine ⟨⟨calls ++ soFar, ?_, ?_⟩, own⟩
          · rw [called, List.append_assoc]
          · rw [counted, tallies.counted, Summary.countCalls_append]

/-- **The counts of documents that are checked in turn**, with one summary and going on after
errors.  After each of them, the samples that are counted are the calls so far that were
answered with a status, well or badly; those that are counted as only compiled are the ones
among them in this mode; and no document is counted.  So from zero on there are never more
samples only compiled than samples, nor more samples than calls.  A document passes exactly
if its calls are one for each of its samples, in order, all answered with the exit code zero;
else they are for a first part of its samples. -/
theorem checkEach_counts (documents : List Document) (summary : Summary) (world : World) :
    let steps := console.called.checkEach runner.called documents summary ⟨world, []⟩
    steps.map Checked.plain = console.checkEach runner documents summary world ∧
    steps.length = documents.length ∧
    ∀ (index : Nat) (step : Checked (Called World)), steps[index]? = some step →
      step.summary.samples =
        summary.samples + step.world.calls.countP RunnerCall.isAnswered ∧
      step.summary.compileOnly = summary.compileOnly +
        (step.world.calls.countP fun call => call.isAnswered && call.mode = .compileOnly) ∧
      step.summary.files = summary.files ∧
      (summary.samples = 0 ∧ summary.compileOnly = 0 →
        step.summary.compileOnly ≤ step.summary.samples ∧
          step.summary.samples ≤ step.world.calls.length) ∧
      ∃ (document : Document) (before calls : List RunnerCall),
        documents[index]? = some document ∧
        ([] :: steps.map fun left => left.world.calls)[index]? = some before ∧
        step.world.calls = before ++ calls ∧
        (calls.map RunnerCall.asked <+:
          (extract document.text).map fun sample => (classify sample.code, sample.code)) ∧
        (step.answer = .ok () ↔ calls = (extract document.text).map RunnerCall.passing) := by
  intro steps
  obtain ⟨plain, tallied⟩ := console.checkEach_called runner documents summary world []
  refine ⟨plain, ?_, fun index step found => ?_⟩
  · rw [← List.length_map Checked.plain, plain, length_checkEach]
  · obtain ⟨⟨soFar, called, counted⟩, document, before, calls, counts, there, earlier, own,
      tallies⟩ := tallied index step found
    obtain rfl : step.world.calls = soFar := called
    rw [Summary.countCalls_eq] at counted
    refine ⟨?_, ?_, ?_, ?_, document, before, calls, there, earlier, own, tallies.ordered,
      tallies.passes_iff⟩
    · rw [counted]
    · rw [counted]
    · rw [counted]
    · rintro ⟨noSamples, noneOnlyCompiled⟩
      rw [counted, noSamples, noneOnlyCompiled, Nat.zero_add, Nat.zero_add]
      refine ⟨List.countP_mono_left fun call _ both => ?_, List.countP_le_length⟩
      exact (Bool.and_eq_true_iff.1 both).1

end Console

/-- Three documents, of which the first fails with a status, the tool of the second cannot be
started, and the third passes: two samples are counted, of three that were called. -/
theorem checkEach_counts_mixed :
    let documents : List Document :=
      [⟨"a.md".toList, "\n    input()\n\nB\n\n    b()\n".toList⟩,
        ⟨"b.md".toList, "\n    c()\n".toList⟩, ⟨"c.md".toList, "\n    d()\n".toList⟩]
    let answers : List (Except ToolError Status) :=
      [.ok (.exited 3), .error ⟨.launch, "bin/neon".toList, .notFound⟩, .ok (.exited 0)]
    let steps := Console.silent.called.checkEach Runner.scripted.called documents {} ⟨answers, []⟩
    ∃ step, steps[2]? = some step ∧ step.summary = ⟨0, 2, 1⟩ ∧ step.world.calls.length = 3 ∧
      step.summary.samples = 0 + step.world.calls.countP RunnerCall.isAnswered ∧
      step.summary.compileOnly ≤ step.summary.samples ∧
      step.summary.samples ≤ step.world.calls.length := by
  intro documents answers steps
  have there : (steps[2]?.map fun step => (step.summary, step.world.calls.length)) =
      some (⟨0, 2, 1⟩, 3) := by
    decide +kernel
  obtain ⟨step, found, shape⟩ := Option.map_eq_some_iff.1 there
  obtain ⟨summary, calls⟩ := Prod.mk.inj shape
  obtain ⟨_, _, tallied⟩ :=
    Console.silent.checkEach_counts Runner.scripted documents {} answers
  obtain ⟨samples, _, _, bounds, _⟩ := tallied 2 step found
  exact ⟨step, found, summary, calls, samples, bounds ⟨rfl, rfl⟩⟩

end DocSamples
