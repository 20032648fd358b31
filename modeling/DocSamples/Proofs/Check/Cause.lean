import DocSamples.Proofs.Check.Trace

/-!
Contract: what the system did where a step of a check gives what it gives.

Owns:
- what a stream can give, whatever the worlds are in which it looks (`Documents.Gives`);
- the losses of an opened source: a file that was not read, a file that git did not give;
- the answers of the toolchain: the end that a process was waited for, or a process that
  could not be started, fed or waited for.

Does not own: which step of a check fails first (`Proofs/Check/Trace`).
-/

namespace DocSamples

variable {World : Type}

/-! ## What a stream can give -/

/-- Whether everything that a stream gives has a property, in whatever worlds it looks. -/
def Documents.Gives (property : Fetched → Prop) : Documents World → Prop
  | .done => True
  | .look visit rest =>
    (∀ world item, (visit world).1 = some item → property item) ∧
      ∀ world, (rest world).Gives property

theorem Documents.gives_cons {property : Fetched → Prop}
    {visit : World → Option Fetched × World} {rest : Documents World}
    (given : ∀ world item, (visit world).1 = some item → property item)
    (later : rest.Gives property) : (Documents.cons visit rest).Gives property :=
  ⟨given, fun _ => later⟩

/-- The items of a full trace are ones that its stream can give. -/
theorem Console.pulledItems_property (console : Console World) (runner : Runner World)
    {property : Fetched → Prop} {documents : Documents World} (gives : documents.Gives property)
    (world : World) :
    ∀ item ∈ pulledItems (console.fullTrace runner documents world), property item := by
  induction documents generalizing world with
  | done => exact fun item member => absurd member (by simp [fullTrace, pulledItems])
  | look visit rest inductionHypothesis =>
      have later := fun after => inductionHypothesis world (gives.2 world) after
      have here := gives.1 world
      rcases looked : visit world with ⟨_ | error | document, after⟩
      · simp only [fullTrace, looked]
        exact later after
      · rw [looked] at here
        simp only [fullTrace, looked, pulledItems_pull]
        intro item member
        rcases List.mem_cons.1 member with rfl | others
        · exact here _ rfl
        · exact later after item others
      · rw [looked] at here
        simp only [fullTrace, looked, pulledItems_pull, pulledItems_announce, pulledItems_append,
          console.pulledItems_sampleSteps, List.nil_append]
        intro item member
        rcases List.mem_cons.1 member with rfl | others
        · exact here _ rfl
        · exact later _ item others

/-! ## The losses of a source -/

namespace Host

variable (host : Host World)

/-- Whether a command gives no output that counts: it does not run, or it does not end with
the exit code zero. -/
def CommandFails (command : Command) (world : World) : Prop :=
  ∀ output after, host.capture command world = (.ok output, after) → output.status ≠ .exited 0

variable {host} in
theorem commandFails_of_error {command : Command} {world after : World} {cause : SystemError}
    (captured : host.capture command world = (.error cause, after)) :
    host.CommandFails command world := by
  intro output later same
  rw [captured] at same
  exact absurd same (by simp)

variable {host} in
theorem commandFails_iff_of_output {command : Command} {world after : World} {output : Output}
    (captured : host.capture command world = (.ok output, after)) :
    host.CommandFails command world ↔ output.status.isSuccess = false := by
  rw [← Bool.not_eq_true, Status.isSuccess_iff]
  constructor
  · intro failing
    exact failing output after captured
  · intro bad other later same
    rw [captured, Prod.mk.injEq, Except.ok.injEq] at same
    rw [← same.1]
    exact bad

/-- Whether an item is a document, or a loss that the system is the cause of: it did not
read the file, or its git did not give it. -/
def Explains : Fetched → Prop
  | .ok _ => True
  | .error (.missingRoot _) => False
  | .error (.unreadable path cause) => ∃ world, host.read path world = .error cause
  | .error (.notFetched reference name _) =>
    ∃ world, host.CommandFails (showCommand reference name) world

private theorem explains_readDocument (path : Text) (world : World) :
    host.Explains (host.readDocument path world) := by
  unfold readDocument
  cases readOne : host.read path world with
  | error cause => exact ⟨world, readOne⟩
  | ok bytes => trivial

private theorem explains_visitEntry (entry : WalkEntry) (world : World) (item : Fetched)
    (given : (host.visitEntry entry world).1 = some item) : host.Explains item := by
  unfold visitEntry at given
  split at given
  next =>
    obtain rfl : host.readDocument entry.path world = item := Option.some.inj given
    exact host.explains_readDocument entry.path world
  next => exact absurd given (by simp)

private theorem explains_fetch (reference name : Text) (world : World) :
    host.Explains (host.fetch reference name world).1 := by
  unfold fetch
  rcases captured : host.capture (showCommand reference name) world with ⟨cause | output, after⟩
  · exact ⟨world, commandFails_of_error captured⟩
  · cases passed : output.status.isSuccess with
    | true =>
        simp only [passed, ↓reduceIte]
        trivial
    | false =>
        simp only [passed, Bool.false_eq_true, ↓reduceIte]
        exact ⟨world, (commandFails_iff_of_output captured).2 passed⟩

/-- A walk gives only documents and losses that the system is the cause of. -/
theorem gives_walk (depth : Nat) (entry : WalkEntry) (rest : Documents World)
    (later : rest.Gives host.Explains) : (host.walk depth entry rest).Gives host.Explains := by
  induction depth generalizing entry rest with
  | zero => exact Documents.gives_cons (host.explains_visitEntry entry) later
  | succ depth inductionHypothesis =>
      refine ⟨host.explains_visitEntry entry, fun world => ?_⟩
      dsimp only
      split
      next =>
        cases host.list entry.path world with
        | error cause =>
            dsimp only
            refine Documents.gives_cons (fun other item given => ?_) later
            exact absurd given (by simp)
        | ok entries =>
            dsimp only
            induction sortEntries entries with
            | nil => exact later
            | cons child children ofChildren => exact inductionHypothesis _ _ ofChildren
      next => exact later

private theorem gives_walkRoot (root : Text) : (host.walkRoot root).Gives host.Explains := by
  refine ⟨fun world item given => ?_, fun world => ?_⟩
  · cases rootKind : host.rootIsDirectory root world <;> simp [rootKind] at given
  · cases rootKind : host.rootIsDirectory root world with
    | error cause =>
        simp only [rootKind]
        trivial
    | ok isDirectory =>
        simp only [rootKind]
        exact host.gives_walk _ _ .done trivial

private theorem gives_fetchAll (reference : Text) (names : List Text) :
    (host.fetchAll reference names).Gives host.Explains := by
  induction names with
  | nil => trivial
  | cons name names inductionHypothesis =>
      refine Documents.gives_cons (fun world item given => ?_) inductionHypothesis
      obtain rfl : (host.fetch reference name world).1 = item := Option.some.inj given
      exact host.explains_fetch reference name world

/-- What an opened source loses, it loses because of the system. -/
theorem gives_of_openSource {selector : Selector} {world after : World}
    {stream : Documents World}
    (opened : host.openSource selector world = (.ok (.documents stream), after)) :
    stream.Gives host.Explains := by
  cases selector with
  | path root =>
      simp only [openSource, documentsBelow] at opened
      split at opened
      next => exact absurd opened (by simp)
      next below =>
        obtain ⟨rfl, _⟩ : _ = stream ∧ world = after := by simpa using opened
        split at below
        next =>
          rw [← Except.ok.inj below]
          split
          · trivial
          · exact host.gives_walkRoot root
        next => exact absurd below (by simp)
  | revision reference =>
      rcases listed : host.listRevision reference world with ⟨reason | names, left⟩
      · simp [openSource, documentsOfRevision, listed] at opened
      · simp only [openSource, documentsOfRevision, listed, Prod.mk.injEq, Except.ok.injEq,
          Source.documents.injEq] at opened
        rw [← opened.1]
        exact host.gives_fetchAll reference _

end Host

/-! ## The answers of the toolchain -/

namespace Console

variable (console : Console World) (runner : Runner World)

private theorem answer_of_mem_sampleSteps {document found : Document} {samples : List Sample}
    {world : World} {sample : Sample} {answer : Except ToolError Status}
    (member :
      .call found sample answer ∈ (console.sampleSteps runner document samples world).1) :
    ∃ before, (runner (classify sample.code) sample.code before).1 = answer := by
  induction samples generalizing world with
  | nil => exact absurd member (by simp [sampleSteps])
  | cons first samples inductionHypothesis =>
      rcases List.mem_cons.1 member with here | later
      · rw [CheckStep.call.injEq] at here
        obtain ⟨rfl, rfl, rfl⟩ := here
        exact ⟨_, rfl⟩
      · exact inductionHypothesis later

/-- The answer of a call is one that the runner gives, in the mode and for the code of the
sample. -/
theorem answer_of_mem_fullTrace {documents : Documents World} {world : World}
    {document : Document} {sample : Sample} {answer : Except ToolError Status}
    (member : .call document sample answer ∈ console.fullTrace runner documents world) :
    ∃ before, (runner (classify sample.code) sample.code before).1 = answer := by
  induction documents generalizing world with
  | done => exact absurd member (by simp [fullTrace])
  | look visit rest inductionHypothesis =>
      rcases looked : visit world with ⟨_ | error | found, after⟩
      · simp only [fullTrace, looked] at member
        exact inductionHypothesis _ member
      · simp only [fullTrace, looked] at member
        rcases List.mem_cons.1 member with here | later
        · exact absurd here (by simp)
        · exact inductionHypothesis _ later
      · simp only [fullTrace, looked] at member
        rcases List.mem_cons.1 member with here | next
        · exact absurd here (by simp)
        rcases List.mem_cons.1 next with here | calls
        · exact absurd here (by simp)
        rcases List.mem_append.1 calls with here | later
        · exact console.answer_of_mem_sampleSteps runner here
        · exact inductionHypothesis _ later

end Console

namespace Host

variable (host : Host World)

/-- Whether an answer is the end that the system says some process came to, or the failure
of a tool that the system did not start, feed or wait for. -/
def Answers : Except ToolError Status → Prop
  | .ok status => ∃ process before after, host.wait process before = (.ok status, after)
  | .error ⟨.launch, tool, cause⟩ =>
    ∃ command before after,
      command.program = tool ∧ host.spawn command before = (.error cause, after)
  | .error ⟨.input, _, cause⟩ =>
    ∃ process bytes before after,
      host.writeAll process bytes before = (some cause, after) ∧ cause ≠ .brokenPipe
  | .error ⟨.waiting, _, cause⟩ =>
    ∃ process before after, host.wait process before = (.error cause, after)

private theorem answers_awaitTool (tool : Text) (process : ProcessId) (world : World) :
    host.Answers (host.awaitTool tool process world).1 := by
  unfold awaitTool
  rcases waited : host.wait process world with ⟨cause | status, after⟩
  · exact ⟨process, world, after, waited⟩
  · exact ⟨process, world, after, waited⟩

private theorem answers_feed (command : Command) (text : Text) (world : World) :
    host.Answers (host.feed command text world).1 := by
  unfold feed
  rcases spawned : host.spawn command world with ⟨cause | process, started⟩
  · exact ⟨command, world, started, rfl, spawned⟩
  · rcases written : host.writeAll process (Utf8.encode text) started with ⟨_ | cause, fed⟩
    · simp only [written]
      exact host.answers_awaitTool _ _ _
    · by_cases broken : cause = .brokenPipe
      · simp only [written, broken]
        exact host.answers_awaitTool _ _ _
      · simp only [written]
        exact ⟨process, _, started, fed, written, broken⟩

theorem answers_toolchain (config : ToolchainConfig) (mode : Mode) (code : Text)
    (world : World) : host.Answers (host.toolchain config mode code world).1 :=
  host.answers_feed _ _ _

end Host

end DocSamples
