import DocSamples.Proofs.Check.Verdict

/-!
Contract: checks with a runner that gives prepared answers.

Owns:
- the calls of a trace, with the answers to them;
- the runner that gives prepared answers, one after another (`Runner.scripted`);
- the check that such a runner makes with the items and the answers of another check.

Nothing is known of a runner but its answers, so a check that gets the same items and the
same answers takes the same steps.
-/

namespace DocSamples

/-! ## Calls -/

structure CheckCall where
  sample : Sample
  answer : Except ToolError Status

def callsOf (steps : List CheckStep) : List CheckCall :=
  steps.filterMap fun
    | .call _ sample answer => some ⟨sample, answer⟩
    | _ => none

def answersOf (steps : List CheckStep) : List (Except ToolError Status) :=
  (callsOf steps).map CheckCall.answer

@[simp] theorem callsOf_nil : callsOf [] = [] := rfl

@[simp] theorem callsOf_pull (fetched? : Option Fetched) (steps : List CheckStep) :
    callsOf (.pull fetched? :: steps) = callsOf steps := rfl

@[simp] theorem callsOf_announce (document : Document) (steps : List CheckStep) :
    callsOf (.announce document :: steps) = callsOf steps := rfl

@[simp] theorem callsOf_append (front back : List CheckStep) :
    callsOf (front ++ back) = callsOf front ++ callsOf back :=
  List.filterMap_append

@[simp] theorem answersOf_pull (fetched? : Option Fetched) (steps : List CheckStep) :
    answersOf (.pull fetched? :: steps) = answersOf steps := rfl

@[simp] theorem answersOf_announce (document : Document) (steps : List CheckStep) :
    answersOf (.announce document :: steps) = answersOf steps := rfl

@[simp] theorem answersOf_call (document : Document) (sample : Sample)
    (answer : Except ToolError Status) (steps : List CheckStep) :
    answersOf (.call document sample answer :: steps) = answer :: answersOf steps := rfl

@[simp] theorem answersOf_append (front back : List CheckStep) :
    answersOf (front ++ back) = answersOf front ++ answersOf back := by
  unfold answersOf
  rw [callsOf_append, List.map_append]

/-! ## Before the first failing step -/

/-- Whatever something follows in a list up to its first member that passes a test, does not
pass it. -/
theorem throughFirst_pairwise {α : Type} (test : α → Bool) (list : List α) :
    (throughFirst test list).Pairwise fun earlier _ => test earlier = false := by
  induction list with
  | nil => exact List.Pairwise.nil
  | cons head tail inductionHypothesis =>
      rw [throughFirst]
      cases passes : test head with
      | true => exact List.pairwise_singleton _ _
      | false => exact List.Pairwise.cons (fun _ _ => passes) inductionHypothesis

theorem find?_throughFirst {α : Type} (test : α → Bool) (list : List α) :
    (throughFirst test list).find? test = list.find? test := by
  induction list with
  | nil => rfl
  | cons head tail inductionHypothesis =>
      rw [throughFirst, List.find?_cons, List.find?_cons]
      cases test head with
      | true => rfl
      | false => exact inductionHypothesis

private theorem throughFirst_sublist {α : Type} (test : α → Bool) (list : List α) :
    (throughFirst test list).Sublist list := by
  induction list with
  | nil => exact List.Sublist.slnil
  | cons head tail inductionHypothesis =>
      rw [throughFirst, List.cons_sublist_cons]
      cases test head with
      | true => exact List.nil_sublist tail
      | false => exact inductionHypothesis

private theorem any_throughFirst {α : Type} (test : α → Bool) (list : List α) :
    (throughFirst test list).any test = list.any test := by
  rw [Bool.eq_iff_iff, List.any_eq_true, List.any_eq_true, ← List.find?_isSome,
    ← List.find?_isSome, find?_throughFirst]

private theorem throughFirst_of_find?_eq_none {α : Type} {test : α → Bool} {list : List α}
    (free : list.find? test = none) : throughFirst test list = list := by
  apply throughFirst_of_not_any
  rw [List.any_eq_false]
  exact List.find?_eq_none.1 free

/-- Of two calls up to the first failing step, the earlier is answered with the exit code
zero. -/
theorem callsOf_throughFirst_pairwise (steps : List CheckStep) :
    (callsOf (throughFirst CheckStep.fails steps)).Pairwise fun earlier _ =>
      earlier.answer = .ok (.exited 0) := by
  refine List.Pairwise.filterMap _ ?_ (throughFirst_pairwise CheckStep.fails steps)
  intro step _ passes call isCall _ _
  cases step with
  | pull fetched? => exact absurd isCall (by simp)
  | announce document => exact absurd isCall (by simp)
  | call document sample answer =>
      obtain rfl : (⟨sample, answer⟩ : CheckCall) = call := Option.some.inj isCall
      cases answer with
      | error error => exact absurd passes (by simp [CheckStep.fails])
      | ok status => simpa [CheckStep.fails] using passes

/-- The steps that a check takes: those of the full trace up to the first that fails. -/
def Console.stepsTaken {World : Type} (console : Console World) (runner : Runner World)
    (documents : Documents World) (world : World) : List CheckStep :=
  throughFirst CheckStep.fails (console.fullTrace runner documents world)

/-! ## Prepared answers -/

def Console.silent {World : Type} : Console World where
  print _ world := world
  printError _ world := world
  log _ _ world := world

/-- The runner that gives prepared answers, one after another.  Once they are used up, it
says that the process was killed. -/
def Runner.scripted : Runner (List (Except ToolError Status)) :=
  fun _ _ answers =>
    match answers with
    | [] => (.ok .killed, [])
    | answer :: later => (answer, later)

theorem Runner.scripted_cons (mode : Mode) (code : Text) (answer : Except ToolError Status)
    (later : List (Except ToolError Status)) :
    Runner.scripted mode code (answer :: later) = (answer, later) := rfl

namespace Console

variable {World : Type} (console : Console World) (runner : Runner World)

theorem silent_logSample (file : Text) (sample : Sample) (world : World) :
    silent.logSample file sample world = world := rfl

theorem silent_announce (document : Document) (world : World) :
    silent.announce document world = world := rfl

/-- With the answers of another runner, all samples of a document are run as by that one. -/
theorem sampleSteps_scripted (document : Document) (samples : List Sample) (world : World)
    (later : List (Except ToolError Status)) :
    let steps := (console.sampleSteps runner document samples world).1
    silent.sampleSteps Runner.scripted document samples (answersOf steps ++ later) =
      (steps, later) := by
  induction samples generalizing world with
  | nil => rfl
  | cons sample samples inductionHypothesis =>
      rcases answered : runner (classify sample.code) sample.code
        (console.logSample document.name sample world) with ⟨answer, after⟩
      have others := inductionHypothesis after
      simp only [sampleSteps, answered, answersOf_call, List.cons_append]
      rw [silent_logSample, Runner.scripted_cons]
      dsimp only
      rw [others]

/-- With the answers of another runner up to its first failure, samples are run as by that
one up to this failure. -/
theorem throughFirst_sampleSteps_scripted (document : Document) (samples : List Sample)
    (world : World) (later : List (Except ToolError Status)) :
    let steps := throughFirst CheckStep.fails
      (console.sampleSteps runner document samples world).1
    throughFirst CheckStep.fails
      (silent.sampleSteps Runner.scripted document samples (answersOf steps ++ later)).1 =
        steps := by
  induction samples generalizing world with
  | nil => rfl
  | cons sample samples inductionHypothesis =>
      rcases answered : runner (classify sample.code) sample.code
        (console.logSample document.name sample world) with ⟨answer, after⟩
      have others := inductionHypothesis after
      simp only [sampleSteps, answered, throughFirst, answersOf_call, List.cons_append]
      rw [silent_logSample, Runner.scripted_cons]
      dsimp only
      cases CheckStep.fails (.call document sample answer) with
      | true => rfl
      | false =>
          simp only [Bool.false_eq_true, ↓reduceIte]
          rw [others]

/-- With the items and the answers of another check, a check takes the steps of that one. -/
theorem stepsTaken_scripted (documents : Documents World) (world : World)
    (later : List (Except ToolError Status)) :
    let steps := console.stepsTaken runner documents world
    silent.stepsTaken Runner.scripted (.ofList (pulledItems steps)) (answersOf steps ++ later) =
      steps := by
  unfold stepsTaken
  induction documents generalizing world with
  | done => rfl
  | look visit rest inductionHypothesis =>
      rcases looked : visit world with ⟨_ | error | document, after⟩
      · simp only [fullTrace, looked]
        exact inductionHypothesis _ _
      · simp [fullTrace, looked, throughFirst, CheckStep.fails]
      · rcases ran : console.sampleSteps runner document (extract document.text)
          (console.announce document after) with ⟨samples, ended⟩
        have free : pulledItems samples = [] := by
          have none := console.pulledItems_sampleSteps runner document (extract document.text)
            (console.announce document after)
          rw [ran] at none
          exact none
        have run := console.sampleSteps_scripted runner document (extract document.text)
          (console.announce document after)
        have runUpTo := console.throughFirst_sampleSteps_scripted runner document
          (extract document.text) (console.announce document after)
        rw [ran] at run runUpTo
        dsimp only at run runUpTo
        have others := inductionHypothesis world ended
        simp only [fullTrace, looked, ran, throughFirst, CheckStep.fails, Bool.false_eq_true,
          ↓reduceIte]
        -- If a sample fails, its document is the last item and its answer the last answer.
        cases found : samples.any CheckStep.fails with
        | false =>
            rw [throughFirst_append_of_not_any _ _ _ found]
            simp only [pulledItems_pull, pulledItems_announce, pulledItems_append, free,
              answersOf_pull, answersOf_announce, answersOf_append, Option.toList_some,
              List.singleton_append, List.nil_append, Documents.ofList_cons, fullTrace,
              silent_announce, List.append_assoc, run, throughFirst, CheckStep.fails,
              Bool.false_eq_true, ↓reduceIte]
            rw [throughFirst_append_of_not_any _ _ _ found, others]
        | true =>
            rw [throughFirst_append_of_any _ _ _ found]
            have upTo : pulledItems (throughFirst CheckStep.fails samples) = [] := by
              apply List.eq_nil_of_sublist_nil
              rw [← free]
              exact (throughFirst_sublist CheckStep.fails samples).filterMap _
            have failing : (silent.sampleSteps Runner.scripted document (extract document.text)
                (answersOf (throughFirst CheckStep.fails samples) ++ later)).1.any
                  CheckStep.fails = true := by
              rw [← any_throughFirst, runUpTo, any_throughFirst, found]
            simp only [pulledItems_pull, pulledItems_announce, upTo, answersOf_pull,
              answersOf_announce, Option.toList_some, List.append_nil, Documents.ofList_cons,
              Documents.ofList_nil, fullTrace, silent_announce, throughFirst, CheckStep.fails,
              Bool.false_eq_true, ↓reduceIte]
            rw [throughFirst_append_of_any _ _ _ failing, runUpTo]

/-- The answer of a check, read off the steps that it takes. -/
theorem check_eq_of_stepsTaken (documents : Documents World) (world : World) :
    let steps := console.stepsTaken runner documents world
    (console.check runner documents world).1 =
      match (steps.find? CheckStep.fails).bind CheckStep.failure? with
      | none => .ok (.ofDocuments (documentsOf (pulledItems steps)))
      | some error => .error error := by
  intro steps
  have first : steps.find? CheckStep.fails =
      (console.fullTrace runner documents world).find? CheckStep.fails :=
    find?_throughFirst _ _
  rw [check_eq, first]
  cases found : (console.fullTrace runner documents world).find? CheckStep.fails with
  | none =>
      have whole : steps = console.fullTrace runner documents world :=
        throughFirst_of_find?_eq_none found
      show Except.ok (Summary.ofDocuments (documentsOf (pulledItems
        (console.fullTrace runner documents world)))) =
          Except.ok (Summary.ofDocuments (documentsOf (pulledItems steps)))
      rw [whole]
  | some step =>
      obtain ⟨error, failure⟩ : ∃ error, step.failure? = some error := by
        rw [← Option.isSome_iff_exists, CheckStep.isSome_failure?]
        exact List.find?_some found
      rw [Option.bind_some, failure]

/-- With the items and the answers of another check, a check answers as that one does. -/
theorem check_scripted (documents : Documents World) (world : World)
    (later : List (Except ToolError Status)) :
    let steps := console.stepsTaken runner documents world
    (silent.check Runner.scripted (.ofList (pulledItems steps)) (answersOf steps ++ later)).1 =
      (console.check runner documents world).1 := by
  intro steps
  rw [check_eq_of_stepsTaken, check_eq_of_stepsTaken,
    console.stepsTaken_scripted runner documents world later]

end Console

end DocSamples
