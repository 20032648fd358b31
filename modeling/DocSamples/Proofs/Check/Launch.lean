import DocSamples.Proofs.Check.Script
import DocSamples.Proofs.Document.Journal
import DocSamples.Proofs.Text.Word
import Mathlib.Data.List.Forall2

/-!
Contract: the processes that a check launches.

Owns:
- which run of a tool a call of the toolchain is (`Carries`);
- the step: the journal of one call;
- the run: the journal of the check of a stream, and of the source of a selector.

Does not own: what a run does to its process (`Proofs/Tool/Journal`).
-/

namespace DocSamples

variable {World : Type}

/-- Whether a run is what a call of the toolchain does: it launches the program for the code,
offers the code to it, and gives the answer of the call. -/
structure Carries (config : ToolchainConfig) (call : CheckCall) (run : ToolRun) : Prop where
  compileOnly : HoldsWord inputWord call.sample.code →
    run.command = ⟨config.compileOnly, [config.inputArgument]⟩
  compileAndRun : ¬ HoldsWord inputWord call.sample.code →
    run.command = ⟨config.compileAndRun, [config.inputArgument]⟩
  feeds : run.Feeds call.sample.code
  answer : run.answer = call.answer

namespace Host

variable (host : Host World) (config : ToolchainConfig)

/-! ## One call -/

/-- The step: a call of the toolchain is one run. -/
theorem toolchain_journaled (sample : Sample) (world : World) (journal : List ProcessEvent) :
    let mode := classify sample.code
    let answered := host.toolchain config mode sample.code world
    ∃ run : ToolRun, Carries config ⟨sample, answered.1⟩ run ∧
      host.journaled.toolchain config mode sample.code ⟨world, journal⟩ =
        (answered.1, ⟨answered.2, journal ++ run.events⟩) := by
  intro mode answered
  obtain ⟨run, launched, feeds, answer, journaled⟩ :=
    host.feed_journaled (config.commandFor mode) sample.code
      (host.log .debug
        ("Running ".toList ++ config.programFor mode ++ " (".toList ++ mode.name ++ ")".toList)
        world)
      journal
  refine ⟨run, ⟨?_, ?_, feeds, answer⟩, journaled⟩
  · intro asks
    have compileOnly : mode = .compileOnly := (classify_eq_compileOnly_iff sample.code).2 asks
    rw [launched, compileOnly]
    rfl
  · intro runs
    have compileAndRun : mode = .compileAndRun := by
      cases shape : mode with
      | compileAndRun => rfl
      | compileOnly => exact absurd ((classify_eq_compileOnly_iff sample.code).1 shape) runs
    rw [launched, compileAndRun]
    rfl

/-! ## A whole check -/

private theorem logSample_journaled (file : Text) (sample : Sample) (world : World)
    (journal : List ProcessEvent) :
    host.journaled.logSample file sample ⟨world, journal⟩ =
      ⟨host.logSample file sample world, journal⟩ := rfl

theorem announce_journaled (document : Document) (world : World) (journal : List ProcessEvent) :
    host.journaled.announce document ⟨world, journal⟩ =
      ⟨host.announce document world, journal⟩ := rfl

/-- Of the samples of a document, those up to the first that fails are run, one after
another. -/
theorem checkSamples_journaled (document : Document) (samples : List Sample) (summary : Summary)
    (world : World) (journal : List ProcessEvent) :
    let runner := host.toolchain config
    let checked := host.checkSamples runner document.name samples summary world
    let steps := (host.sampleSteps runner document samples world).1
    ∃ runs : List ToolRun,
      List.Forall₂ (Carries config) (callsOf (throughFirst CheckStep.fails steps)) runs ∧
      host.journaled.checkSamples (host.journaled.toolchain config) document.name samples summary
          ⟨world, journal⟩ =
        (checked.1, checked.2.1, ⟨checked.2.2, journal ++ runs.flatMap ToolRun.events⟩) := by
  induction samples generalizing summary world journal with
  | nil =>
      refine ⟨[], List.Forall₂.nil, ?_⟩
      simp [Console.checkSamples]
  | cons sample samples inductionHypothesis =>
      intro runner checked steps
      rcases answered : host.toolchain config (classify sample.code) sample.code
        (host.logSample document.name sample world) with ⟨answer, after⟩
      obtain ⟨run, carries, called⟩ := host.toolchain_journaled config sample
        (host.logSample document.name sample world) journal
      rw [answered] at carries called
      dsimp only at carries called
      have stepsEq : steps = .call document sample answer ::
          (host.sampleSteps (host.toolchain config) document samples after).1 := by
        simp only [steps, runner, Console.sampleSteps, answered]
      have checkedEq := host.checkSamples_cons (host.toolchain config) document sample samples
        summary world
      have journaledEq := host.journaled.checkSamples_cons (host.journaled.toolchain config)
        document sample samples summary ⟨world, journal⟩
      rw [answered] at checkedEq
      rw [logSample_journaled, called] at journaledEq
      rw [stepsEq, throughFirst, ← CheckStep.isSome_failure?]
      dsimp only at checkedEq journaledEq
      cases failure : CheckStep.failure? (.call document sample answer) with
      | some error =>
          rw [failure] at checkedEq journaledEq
          refine ⟨[run], List.Forall₂.cons carries List.Forall₂.nil, ?_⟩
          rw [journaledEq, List.flatMap_singleton]
          simp only [checked, runner, checkedEq]
      | none =>
          rw [failure] at checkedEq journaledEq
          obtain ⟨runs, others, goesOn⟩ := inductionHypothesis
            (summary.countAnswer (classify sample.code) answer) after (journal ++ run.events)
          refine ⟨run :: runs, List.Forall₂.cons carries others, ?_⟩
          rw [journaledEq, goesOn, List.flatMap_cons, List.append_assoc]
          simp only [checked, runner, checkedEq]

/-- The run: of the samples of a stream, those up to the first step that fails are run, one
after another. -/
theorem checkFrom_journaled (documents : Documents World) (summary : Summary) (world : World)
    (journal : List ProcessEvent) :
    let runner := host.toolchain config
    let checked := host.checkFrom runner documents summary world
    ∃ runs : List ToolRun,
      List.Forall₂ (Carries config)
        (callsOf (throughFirst CheckStep.fails (host.fullTrace runner documents world))) runs ∧
      host.journaled.checkFrom (host.journaled.toolchain config) documents.journaled summary
          ⟨world, journal⟩ =
        (checked.1, ⟨checked.2, journal ++ runs.flatMap ToolRun.events⟩) := by
  induction documents generalizing summary world journal with
  | done =>
      refine ⟨[], List.Forall₂.nil, ?_⟩
      simp only [Documents.journaled, Console.checkFrom, List.flatMap_nil, List.append_nil]
      rfl
  | look visit rest inductionHypothesis =>
      intro runner checked
      rcases looked : visit world with ⟨_ | error | document, after⟩
      · obtain ⟨runs, carried, goesOn⟩ := inductionHypothesis world summary after journal
        refine ⟨runs, ?_, ?_⟩
        · simpa only [Console.fullTrace, looked] using carried
        · simpa only [checked, Documents.journaled, Console.checkFrom, looked] using goesOn
      · refine ⟨[], ?_, ?_⟩
        · simp [Console.fullTrace, looked, throughFirst, CheckStep.fails]
        · simp [checked, Documents.journaled, Console.checkFrom, looked]
      · obtain ⟨runs, carried, ran⟩ := host.checkSamples_journaled config document
          (extract document.text) summary (host.announce document after) journal
        have fails := CheckStep.any_fails (host.sampleSteps (host.toolchain config) document
          (extract document.text) (host.announce document after)).1
        simp only [checked, runner, Console.fullTrace, Console.checkFrom, Console.checkDocument,
          Documents.journaled, looked, throughFirst, CheckStep.fails, Bool.false_eq_true,
          ↓reduceIte, callsOf_pull, callsOf_announce, announce_journaled, ran]
        -- The runs stop within this document exactly if the check does.
        cases found : (host.sampleSteps (host.toolchain config) document
          (extract document.text) (host.announce document after)).1.findSome?
            CheckStep.failure? with
        | none =>
            rw [found] at fails
            rw [throughFirst_of_not_any _ _ fails] at carried
            rw [throughFirst_append_of_not_any _ _ _ fails, callsOf_append,
              host.checkSamples_of_passing (host.toolchain config) document _ summary _ found]
            dsimp only
            obtain ⟨others, carriedAfter, goesOn⟩ := inductionHypothesis world
              (summary.countDocument document) _ (journal ++ runs.flatMap ToolRun.events)
            refine ⟨runs ++ others, List.rel_append carried carriedAfter, ?_⟩
            rw [List.flatMap_append, ← List.append_assoc]
            exact goesOn
        | some error =>
            rw [found] at fails
            obtain ⟨counted, ended, stopped⟩ := host.checkSamples_of_failing
              (host.toolchain config) document _ summary _ found
            rw [throughFirst_append_of_any _ _ _ fails, stopped]
            exact ⟨runs, carried, rfl⟩

/-! ## The launches of a check -/

/-- Whether runs of tools are the launches of the check of a stream. -/
structure Launches (documents : Documents World) (world : World) (runs : List ToolRun) :
    Prop where
  carried : List.Forall₂ (Carries config)
    (callsOf (host.stepsTaken (host.toolchain config) documents world)) runs
  /-- Nothing else is launched. -/
  launched : (runs.flatMap ToolRun.events).filterMap ProcessEvent.launch? =
    runs.map ToolRun.command
  /-- Of two runs, the process of the earlier has ended with the exit code zero. -/
  ended : runs.Pairwise fun earlier _ =>
    ∃ process writes, earlier = .awaited earlier.command process writes (.ok (.exited 0))
  /-- With a runner that gives the answers of the runs, a check of the items that were asked
  for takes the same steps and answers the same, whatever that runner would say later. -/
  scripted : ∀ later,
    let steps := host.stepsTaken (host.toolchain config) documents world
    let answers := runs.map ToolRun.answer ++ later
    Console.silent.stepsTaken Runner.scripted (.ofList (pulledItems steps)) answers = steps ∧
      (Console.silent.check Runner.scripted (.ofList (pulledItems steps)) answers).1 =
        (host.check (host.toolchain config) documents world).1
  /-- If there are two programs, the code tells which of them it is given to. -/
  routed : config.compileOnly ≠ config.compileAndRun → ∀ call run,
    (call, run) ∈
        (callsOf (host.stepsTaken (host.toolchain config) documents world)).zip runs →
      (run.command.program = config.compileOnly ↔ HoldsWord inputWord call.sample.code) ∧
        (run.command.program = config.compileAndRun ↔ ¬ HoldsWord inputWord call.sample.code)

end Host

private theorem launches_flatMap_events (runs : List ToolRun) :
    (runs.flatMap ToolRun.events).filterMap ProcessEvent.launch? =
      runs.map ToolRun.command := by
  rw [List.filterMap_flatMap]
  induction runs with
  | nil => rfl
  | cons run runs inductionHypothesis =>
      rw [List.flatMap_cons, run.launches_events, inductionHypothesis]
      rfl

/-- The runs answer what the calls are answered. -/
theorem answersOf_eq_of_carried {config : ToolchainConfig} {calls : List CheckCall}
    {runs : List ToolRun} (carried : List.Forall₂ (Carries config) calls runs) :
    calls.map CheckCall.answer = runs.map ToolRun.answer := by
  induction carried with
  | nil => rfl
  | cons carries others inductionHypothesis =>
      rw [List.map_cons, List.map_cons, carries.answer, inductionHypothesis]

private theorem Carries.program_iff {config : ToolchainConfig} {call : CheckCall} {run : ToolRun}
    (carries : Carries config call run) (differ : config.compileOnly ≠ config.compileAndRun) :
    (run.command.program = config.compileOnly ↔ HoldsWord inputWord call.sample.code) ∧
      (run.command.program = config.compileAndRun ↔ ¬ HoldsWord inputWord call.sample.code) := by
  by_cases asks : HoldsWord inputWord call.sample.code
  · rw [carries.compileOnly asks]
    simp [asks, differ]
  · rw [carries.compileAndRun asks]
    simp [asks, differ.symm]

/-- Of two runs, the process of the earlier has ended with the exit code zero. -/
theorem ended_of_carried {config : ToolchainConfig} {calls : List CheckCall}
    {runs : List ToolRun} (carried : List.Forall₂ (Carries config) calls runs)
    (passing : calls.Pairwise fun earlier _ => earlier.answer = .ok (.exited 0)) :
    runs.Pairwise fun earlier _ =>
      ∃ process writes, earlier = .awaited earlier.command process writes (.ok (.exited 0)) := by
  have answered : (runs.map ToolRun.answer).Pairwise fun earlier _ =>
      earlier = .ok (.exited 0) := by
    rw [← answersOf_eq_of_carried carried]
    exact List.pairwise_map.2 passing
  exact (List.pairwise_map.1 answered).imp ToolRun.eq_awaited_of_answer

namespace Host

variable (host : Host World) (config : ToolchainConfig)

private theorem launches_of_carried {documents : Documents World} {world : World}
    {runs : List ToolRun}
    (carried : List.Forall₂ (Carries config)
      (callsOf (host.stepsTaken (host.toolchain config) documents world)) runs) :
    host.Launches config documents world runs where
  carried := carried
  launched := launches_flatMap_events runs
  ended := ended_of_carried carried (callsOf_throughFirst_pairwise _)
  scripted later := by
    rw [← answersOf_eq_of_carried carried]
    exact ⟨host.stepsTaken_scripted (host.toolchain config) documents world later,
      host.check_scripted (host.toolchain config) documents world later⟩
  routed differ call run member := (List.forall₂_zip carried member).program_iff differ

private theorem check_journaled (documents : Documents World) (world : World) :
    ∃ runs, host.Launches config documents world runs ∧
      host.journaled.check (host.journaled.toolchain config) documents.journaled ⟨world, []⟩ =
        ((host.check (host.toolchain config) documents world).1,
          ⟨(host.check (host.toolchain config) documents world).2,
            runs.flatMap ToolRun.events⟩) := by
  obtain ⟨runs, carried, journaled⟩ := host.checkFrom_journaled config documents {} world []
  exact ⟨runs, host.launches_of_carried config carried, journaled⟩

/-- **The processes that a check launches**, for every stream and every way in which the
system behaves.  Run with a journal, the check answers and leaves the world as it does
without one, and the journal is that of its launches, one after another.  The check of a
selector is the check of the stream that its source opens as; if it opens as none, nothing is
launched. -/
theorem check_launches :
    (∀ documents world, ∃ runs, host.Launches config documents world runs ∧
      host.journaled.check (host.journaled.toolchain config) documents.journaled ⟨world, []⟩ =
        ((host.check (host.toolchain config) documents world).1,
          ⟨(host.check (host.toolchain config) documents world).2,
            runs.flatMap ToolRun.events⟩)) ∧
    ∀ selector world, ∃ runs : List ToolRun,
      host.journaled.checkSource config selector ⟨world, []⟩ =
        ((host.checkSource config selector world).1,
          ⟨(host.checkSource config selector world).2, runs.flatMap ToolRun.events⟩) ∧
      match host.openSource selector world with
      | (.ok (.documents documents), opened) =>
        host.Launches config documents opened runs ∧
          (host.checkSource config selector world).1 =
            (host.check (host.toolchain config) documents opened).1.map Outcome.verified
      | _ => runs = [] := by
  refine ⟨host.check_journaled config, ?_⟩
  intro selector world
  rcases opened : host.openSource selector world with ⟨error | ⟨documents | reason⟩, after⟩
  · refine ⟨[], ?_, rfl⟩
    simp [checkSource, checkWith, openSource_journaled, opened]
  · obtain ⟨runs, launches, journaled⟩ := host.check_journaled config documents after
    refine ⟨runs, ?_, launches, ?_⟩
    · simp only [checkSource, checkWith, openSource_journaled, opened, journaled]
      rcases host.check (host.toolchain config) documents after with ⟨error | summary, ended⟩
      · rfl
      · rfl
    · simp only [checkSource, checkWith, opened]
      rcases host.check (host.toolchain config) documents after with ⟨error | summary, ended⟩
      · rfl
      · rfl
  · refine ⟨[], ?_, rfl⟩
    simp only [checkSource, checkWith, openSource_journaled, opened]
    rfl

end Host

end DocSamples
