import DocSamples.Check.Documents

/-!
Contract: the steps of a check, and where it stops.

Owns:
- the steps of a check that nothing stops (`Console.fullTrace`), and which of them fail;
- the part of a list up to its first failing member;
- the check of one document against the steps of its samples.

Does not own: what a check is seen to do (`Proofs/Check/Record`) or what it answers
(`Proofs/Check/Verdict`).

The world is arbitrary, so the answers of a runner may depend on all that happened
before, and so may the documents of a stream.
-/

namespace DocSamples

/-! ## Events and steps -/

inductive CheckEvent where
  | pull (fetched? : Option Fetched)
  | print (text : Text)
  | call (mode : Mode) (code : Text)

/-- One step of a check, with the document and the sample that it is about and with
the answer that the runner gave. -/
inductive CheckStep where
  | pull (fetched? : Option Fetched)
  | announce (document : Document)
  | call (document : Document) (sample : Sample) (answer : Except ToolError Status)

namespace CheckStep

def event : CheckStep → CheckEvent
  | .pull fetched? => .pull fetched?
  | .announce document => .print ("Checking ".toList ++ document.name ++ "...\n".toList)
  | .call _ sample _ => .call (classify sample.code) sample.code

/-- Whether a step fails: a document is lost, a tool cannot be run, or it ends with
anything but the exit code zero. -/
def fails : CheckStep → Bool
  | .pull (some (.error _)) => true
  | .pull _ | .announce _ => false
  | .call _ _ (.error _) => true
  | .call _ _ (.ok status) => status != .exited 0

def failure? : CheckStep → Option CheckError
  | .pull (some (.error error)) => some (.sourceFailed error)
  | .pull _ | .announce _ => none
  | .call document _ (.error error) => some (.toolFailed document.name error)
  | .call document sample (.ok status) =>
    if status = .exited 0 then none
    else
      some (.sampleFailed document.name sample.index sample.line (classify sample.code) status)

theorem isSome_failure? (step : CheckStep) : step.failure?.isSome = step.fails := by
  cases step with
  | pull fetched? => rcases fetched? with _ | _ | _ <;> rfl
  | announce document => rfl
  | call document sample answer =>
      cases answer with
      | error error => rfl
      | ok status =>
          by_cases success : status = .exited 0 <;> simp [failure?, fails, success]

theorem any_fails (steps : List CheckStep) :
    steps.any fails = (steps.findSome? failure?).isSome := by
  induction steps with
  | nil => rfl
  | cons step steps inductionHypothesis =>
      rw [List.any_cons, List.findSome?_cons, ← isSome_failure?, inductionHypothesis]
      cases step.failure? <;> rfl

end CheckStep

/-- Count a sample whose tool gave an answer: one that could not be run is left out. -/
def Summary.countAnswer (summary : Summary) (mode : Mode) : Except ToolError Status → Summary
  | .error _ => summary
  | .ok _ => summary.countSample mode

private theorem Summary.countAnswer_of_passing {summary : Summary} {mode : Mode}
    {document : Document}
    {sample : Sample} {answer : Except ToolError Status}
    (passes : CheckStep.failure? (.call document sample answer) = none) :
    summary.countAnswer mode answer = summary.countSample mode := by
  cases answer with
  | error error => exact absurd passes (by simp [CheckStep.failure?])
  | ok status => rfl

/-! ## The first failing step -/

/-- A list up to its first member that passes a test, that member included; the whole
list if none passes. -/
def throughFirst {α : Type} (test : α → Bool) : List α → List α
  | [] => []
  | head :: tail => head :: if test head then [] else throughFirst test tail

theorem throughFirst_append_of_any {α : Type} (test : α → Bool) (front back : List α)
    (found : front.any test = true) :
    throughFirst test (front ++ back) = throughFirst test front := by
  induction front with
  | nil => exact absurd found (by simp)
  | cons head tail inductionHypothesis =>
      rw [List.cons_append, throughFirst, throughFirst]
      cases passes : test head with
      | true => rfl
      | false =>
          rw [List.any_cons, passes, Bool.false_or] at found
          rw [inductionHypothesis found]

theorem throughFirst_append_of_not_any {α : Type} (test : α → Bool) (front back : List α)
    (free : front.any test = false) :
    throughFirst test (front ++ back) = front ++ throughFirst test back := by
  induction front with
  | nil => rfl
  | cons head tail inductionHypothesis =>
      rw [List.any_cons, Bool.or_eq_false_iff] at free
      rw [List.cons_append, throughFirst, free.1, inductionHypothesis free.2]
      rfl

theorem throughFirst_of_not_any {α : Type} (test : α → Bool) (list : List α)
    (free : list.any test = false) : throughFirst test list = list := by
  have whole := throughFirst_append_of_not_any test list [] free
  rwa [List.append_nil, throughFirst, List.append_nil] at whole

/-! ## The full trace -/

namespace Console

variable {World : Type} (console : Console World) (runner : Runner World)

/-- Run all samples of a document whatever the answers are: the steps, and the world
that they leave. -/
def sampleSteps (document : Document) : List Sample → World → List CheckStep × World
  | [], world => ([], world)
  | sample :: samples, world =>
    let answered :=
      runner (classify sample.code) sample.code (console.logSample document.name sample world)
    let later := sampleSteps document samples answered.2
    (.call document sample answered.1 :: later.1, later.2)

/-- The steps of a check that nothing stops.  Each item of the stream is pulled; a
document is announced, and then its samples are run in order; the pull that finds the
end of the stream comes last. -/
def fullTrace : Documents World → World → List CheckStep
  | .done, _ => [.pull none]
  | .look visit rest, world =>
    match visit world with
    | (none, after) => fullTrace (rest world) after
    | (some (.error error), after) => .pull (some (.error error)) :: fullTrace (rest world) after
    | (some (.ok document), after) =>
      let checked :=
        console.sampleSteps runner document (extract document.text) (console.announce document after)
      .pull (some (.ok document)) :: .announce document ::
        (checked.1 ++ fullTrace (rest world) checked.2)

end Console

/-- The items that the pulls of a trace give. -/
def pulledItems (steps : List CheckStep) : List Fetched :=
  steps.filterMap fun
    | .pull fetched? => fetched?
    | _ => none

@[simp] theorem pulledItems_pull (fetched? : Option Fetched) (steps : List CheckStep) :
    pulledItems (.pull fetched? :: steps) = fetched?.toList ++ pulledItems steps := by
  cases fetched? <;> rfl

@[simp] theorem pulledItems_announce (document : Document) (steps : List CheckStep) :
    pulledItems (.announce document :: steps) = pulledItems steps := rfl

@[simp] theorem pulledItems_call (document : Document) (sample : Sample)
    (answer : Except ToolError Status) (steps : List CheckStep) :
    pulledItems (.call document sample answer :: steps) = pulledItems steps := rfl

@[simp] theorem pulledItems_append (front back : List CheckStep) :
    pulledItems (front ++ back) = pulledItems front ++ pulledItems back :=
  List.filterMap_append

theorem mem_pulledItems {steps : List CheckStep} {item : Fetched} :
    item ∈ pulledItems steps ↔ .pull (some item) ∈ steps := by
  rw [pulledItems, List.mem_filterMap]
  constructor
  · rintro ⟨step, member, gives⟩
    cases step with
    | pull fetched? =>
        obtain rfl : fetched? = some item := gives
        exact member
    | announce document => exact absurd gives (by simp)
    | call document sample answer => exact absurd gives (by simp)
  · intro member
    exact ⟨_, member, rfl⟩

/-- What is seen of a check because of one item: the pull; of a document also its name and
a call for each of its samples. -/
def eventsOfItem : Fetched → List CheckEvent
  | .error error => [.pull (some (.error error))]
  | .ok document =>
    .pull (some (.ok document)) ::
      .print ("Checking ".toList ++ document.name ++ "...\n".toList) ::
        (extract document.text).map fun sample => .call (classify sample.code) sample.code

namespace Console

variable {World : Type} (console : Console World) (runner : Runner World)

theorem sampleSteps_events (document : Document) (samples : List Sample) (world : World) :
    (console.sampleSteps runner document samples world).1.map CheckStep.event =
      samples.map fun sample => .call (classify sample.code) sample.code := by
  induction samples generalizing world with
  | nil => rfl
  | cons sample samples inductionHypothesis =>
      simp only [sampleSteps, List.map_cons, inductionHypothesis]
      rfl

@[simp] theorem pulledItems_sampleSteps (document : Document) (samples : List Sample)
    (world : World) :
    pulledItems (console.sampleSteps runner document samples world).1 = [] := by
  induction samples generalizing world with
  | nil => rfl
  | cons sample samples inductionHypothesis =>
      rw [sampleSteps, pulledItems_call]
      exact inductionHypothesis _

/-- A full trace is what its items cause, one after another, and then the pull that finds
the end. -/
theorem fullTrace_events (documents : Documents World) (world : World) :
    (console.fullTrace runner documents world).map CheckStep.event =
      (pulledItems (console.fullTrace runner documents world)).flatMap eventsOfItem ++
        [.pull none] := by
  induction documents generalizing world with
  | done => rfl
  | look visit rest inductionHypothesis =>
      rcases looked : visit world with ⟨_ | _ | document, after⟩
      · simp only [fullTrace, looked]
        exact inductionHypothesis _ _
      · simp [fullTrace, looked, inductionHypothesis, eventsOfItem, CheckStep.event]
      · have samples := console.sampleSteps_events runner document (extract document.text)
          (console.announce document after)
        simp [fullTrace, looked, inductionHypothesis, eventsOfItem, CheckStep.event, samples]

/-- A stream over a list gives the members of the list. -/
theorem pulledItems_ofList (items : List Fetched) (world : World) :
    pulledItems (console.fullTrace runner (.ofList items) world) = items := by
  induction items generalizing world with
  | nil => rfl
  | cons item items inductionHypothesis =>
      cases item with
      | error error => simp [fullTrace, inductionHypothesis]
      | ok document => simp [fullTrace, inductionHypothesis]

end Console

/-! ## One document -/

namespace Console

variable {World : Type} (console : Console World) (runner : Runner World)

/-- The first sample decides whether the others are checked; it is counted if its tool
ended. -/
theorem checkSamples_cons (document : Document) (sample : Sample) (samples : List Sample)
    (summary : Summary) (world : World) :
    let answered :=
      runner (classify sample.code) sample.code (console.logSample document.name sample world)
    let counted := summary.countAnswer (classify sample.code) answered.1
    console.checkSamples runner document.name (sample :: samples) summary world =
      match CheckStep.failure? (.call document sample answered.1) with
      | none => console.checkSamples runner document.name samples counted answered.2
      | some error => (.error error, counted, answered.2) := by
  rcases answered : runner (classify sample.code) sample.code
    (console.logSample document.name sample world) with ⟨_ | status, after⟩
  · simp [checkSamples, answered, CheckStep.failure?, Summary.countAnswer]
  · by_cases success : status = .exited 0
    · simp [checkSamples, answered, CheckStep.failure?, Summary.countAnswer, success,
        Status.isSuccess]
    · simp [checkSamples, answered, CheckStep.failure?, Summary.countAnswer, success,
        Status.isSuccess]

/-- A check of samples in which nothing fails counts every sample and leaves the world of
the full trace. -/
theorem checkSamples_of_passing (document : Document) (samples : List Sample)
    (summary : Summary) (world : World)
    (passing : (console.sampleSteps runner document samples world).1.findSome?
      CheckStep.failure? = none) :
    console.checkSamples runner document.name samples summary world =
      (.ok (),
        samples.foldl (fun counts sample => counts.countSample (classify sample.code)) summary,
        (console.sampleSteps runner document samples world).2) := by
  induction samples generalizing summary world with
  | nil => rfl
  | cons sample samples inductionHypothesis =>
      have first := console.checkSamples_cons runner document sample samples summary world
      simp only [sampleSteps, List.findSome?_cons] at passing
      split at passing
      next => exact absurd passing (by simp)
      next passes =>
        rw [first, passes, Summary.countAnswer_of_passing passes]
        exact inductionHypothesis _ _ passing

/-- A check of samples in which something fails answers with the first failure. -/
theorem checkSamples_of_failing (document : Document) (samples : List Sample)
    (summary : Summary) (world : World) {error : CheckError}
    (failing : (console.sampleSteps runner document samples world).1.findSome?
      CheckStep.failure? = some error) :
    ∃ counted ended, console.checkSamples runner document.name samples summary world =
      (.error error, counted, ended) := by
  induction samples generalizing summary world with
  | nil => exact absurd failing (by simp [sampleSteps])
  | cons sample samples inductionHypothesis =>
      have first := console.checkSamples_cons runner document sample samples summary world
      simp only [sampleSteps, List.findSome?_cons] at failing
      split at failing
      next fails =>
        rw [first, fails, Option.some.inj failing]
        exact ⟨_, _, rfl⟩
      next passes =>
        rw [first, passes]
        exact inductionHypothesis _ _ failing

end Console

end DocSamples
