import DocSamples.Proofs.Tool.Delivery

/-!
Contract: the verdict of a tool, however much of its input it reads.

Owns:
- the answer for a tool by what was done to its process: a status, or which request failed;
- the whole: that answer on every system, and on a system with a child what the child has had.
-/

namespace DocSamples

variable {World : Type}

/-! ## Failing writes -/

/-- Whether no write in a journal fails, other than with a broken pipe. -/
def WritesOnlyBreak (journal : List ProcessEvent) : Prop :=
  ∀ process bytes answer, .write process bytes answer ∈ journal →
    answer = .error .brokenPipe ∨ ∃ more, answer = .ok (more + 1)

/-- Writing ends with a failure only if a write failed with it, or took nothing. -/
theorem Offers.exists_of_failure {bytes : Bytes} {writes : List PipeWrite} {cause : SystemError}
    (offers : Offers bytes writes (some cause)) :
    ∃ write ∈ writes, write.answer = .error cause ∨ write.answer = .ok 0 := by
  generalize failed : some cause = failure? at offers
  induction offers with
  | complete => exact absurd failed nofun
  | further nonempty more others inductionHypothesis =>
      obtain ⟨write, member, failing⟩ := inductionHypothesis failed
      exact ⟨write, List.mem_cons_of_mem _ member, failing⟩
  | stalled nonempty => exact ⟨_, List.mem_cons_self, .inr rfl⟩
  | failed nonempty found =>
      obtain rfl := Option.some.inj failed
      exact ⟨_, List.mem_cons_self, .inl rfl⟩

/-! ## Answers by the run -/

namespace ToolRun

private theorem mem_events_of_mem_writes {command : Command} {process : ProcessId}
    {writes : List PipeWrite} {cause : SystemError} {ended : Except SystemError Status}
    {write : PipeWrite} (member : write ∈ writes) :
    .write process write.bytes write.answer ∈
      (ToolRun.abandoned command process writes cause ended).events :=
  List.mem_cons_of_mem _ (List.mem_append_left _ (List.mem_map_of_mem member))

/-- A process that was launched, was not cut off by a failing write and was waited for answers with
its status. -/
theorem answer_eq_ok {run : ToolRun} {text : Text} (feeds : run.Feeds text)
    (onlyBreak : WritesOnlyBreak run.events) {process : ProcessId} {status : Status}
    (waited : .wait process (.ok status) ∈ run.events) : run.answer = .ok status := by
  cases run with
  | refused command cause => simp [events] at waited
  | awaited command process writes ended =>
      obtain ⟨-, rfl⟩ : _ ∧ ended = .ok status := by
        simpa [events, PipeWrite.event, eq_comm] using waited
      rfl
  | abandoned command process writes cause ended =>
      obtain ⟨offers, other⟩ := feeds
      obtain ⟨write, member, failing⟩ := offers.exists_of_failure
      rcases onlyBreak _ _ _ (mem_events_of_mem_writes member) with broken | ⟨more, taken⟩
      · rcases failing with failed | nothing
        · exact absurd (Except.error.inj (failed.symm.trans broken)) other
        · cases nothing.symm.trans broken
      · rcases failing with failed | nothing
        · cases failed.symm.trans taken
        · cases Except.ok.inj (nothing.symm.trans taken)

/-- A run is answered with an error only if its launch, a write or the wait failed. -/
theorem shape_of_answer_error {run : ToolRun} {text : Text} (feeds : run.Feeds text)
    {error : ToolError} (failed : run.answer = .error error) :
    error.tool = run.command.program ∧
      ((error.stage = .launch ∧ run = .refused run.command error.cause) ∨
        (error.stage = .input ∧ error.cause ≠ .brokenPipe ∧
          ∃ process writes ended, run = .abandoned run.command process writes error.cause ended) ∨
        (error.stage = .waiting ∧
          ∃ process writes, run = .awaited run.command process writes (.error error.cause))) := by
  cases run with
  | refused command cause =>
      obtain rfl := Except.error.inj failed
      exact ⟨rfl, .inl ⟨rfl, rfl⟩⟩
  | awaited command process writes ended =>
      cases ended with
      | error cause =>
          obtain rfl := Except.error.inj failed
          exact ⟨rfl, .inr (.inr ⟨rfl, process, writes, rfl⟩)⟩
      | ok status => exact absurd failed nofun
  | abandoned command process writes cause ended =>
      obtain rfl := Except.error.inj failed
      exact ⟨rfl, .inr (.inl ⟨rfl, feeds.2, process, writes, ended, rfl⟩)⟩

end ToolRun

/-! ## The verdict -/

/-- **How much of its input a tool reads never changes the verdict.**  On every system, feeding a
text to a tool is one run, with its journal.  If the process was launched, no write failed other
than with a broken pipe, and the wait succeeded, then the answer is the status that the wait
gave.  It is an error only where the launch, a write or the wait failed, and a process that could
not be given its input is killed and waited for.

On a system with a child behind a pipe, whatever the child does and the system decides, the
child has had a part of the text from its start, and all of it if it has been told the end.  If
nothing fails by decision, the answer is the status with which the child itself ends after what it
has had, and a child that reads this text to the end has had the whole text and then its end. -/
theorem feed_verdict (host : Host World) (surroundings : Surroundings) (command : Command)
    (text : Text) :
    (∀ world, let answered := host.feed command text world
      ∃ run : ToolRun, run.command = command ∧ run.Feeds text ∧ answered.1 = run.answer ∧
        host.journaled.feed command text ⟨world, []⟩ =
          (answered.1, ⟨answered.2, run.events⟩) ∧
        (WritesOnlyBreak run.events → ∀ process status,
          .wait process (.ok status) ∈ run.events → answered.1 = .ok status) ∧
        ∀ error, answered.1 = .error error → error.tool = command.program ∧
          ((error.stage = .launch ∧ run = .refused command error.cause) ∨
            (error.stage = .input ∧ error.cause ≠ .brokenPipe ∧
              ∃ process writes ended, run = .abandoned command process writes error.cause ended) ∨
            (error.stage = .waiting ∧
              ∃ process writes, run = .awaited command process writes (.error error.cause)))) ∧
    ∀ (state : Attended) (child : Child), surroundings.launch command = .ok child →
      let fed := surroundings.host.feed command text state
      fed.2.pipe.received <+: Utf8.encode text ∧
      (fed.2.pipe.told = true → fed.2.pipe.received = Utf8.encode text) ∧
      ((∀ turn ∈ state.turns, turn.failure? = none) → surroundings.waitFailure? = none →
        ∃ status, fed.1 = .ok status ∧ fed.2.child = .ends status ∧
          child.EndsAfter fed.2.pipe.received fed.2.pipe.told status ∧
          (child.ReadsToEnd (Utf8.encode text) →
            fed.2.pipe.received = Utf8.encode text ∧ fed.2.pipe.told = true)) := by
  constructor
  · intro world answered
    obtain ⟨run, rfl, feeds, answer, journaled⟩ := host.feed_journaled command text world []
    refine ⟨run, rfl, feeds, answer.symm, journaled, ?_, ?_⟩
    · intro onlyBreak process status waited
      exact answer.symm.trans (run.answer_eq_ok feeds onlyBreak waited)
    · intro error failed
      exact run.shape_of_answer_error feeds (answer.trans failed)
  · intro state child launched fed
    obtain ⟨delivered, answers⟩ := surroundings.feed_child command text state launched
    refine ⟨delivered.within, delivered.whole_of_told, fun unfailing waitable => ?_⟩
    obtain ⟨status, ends⟩ := answers unfailing waitable
    refine ⟨status, ends.answered, ends.ended, ends.ownEnd, fun reading => ?_⟩
    have told := ends.told_of_reading delivered.within reading
    exact ⟨delivered.whole_of_told told, told⟩

/-- A child that reads three bytes at a time, at a pipe for two bytes of which each write fills one,
and looks for a `b` in all that it has had. -/
theorem feed_verdict_of_reading :
    let verdict (had : Bytes) : Status := if 98 ∈ had then .exited 0 else .exited 1
    let surroundings : Surroundings :=
      ⟨fun _ => .ok (.judges verdict 2 5 []), 1, fun _ _ => true, fun _ _ => true, none⟩
    let fed := surroundings.host.feed ⟨"tool".toList, []⟩ "aabc".toList { turns := [] }
    fed.1 = .ok (.exited 0) ∧ fed.2.pipe.received = Utf8.encode "aabc".toList ∧
      fed.2.pipe.told = true := by
  intro verdict surroundings fed
  have launched : surroundings.launch ⟨"tool".toList, []⟩ = .ok (.judges verdict 2 5 []) := rfl
  obtain ⟨-, served⟩ := feed_verdict surroundings.host surroundings ⟨"tool".toList, []⟩ "aabc".toList
  obtain ⟨-, -, unfailing⟩ := served { turns := [] } _ launched
  obtain ⟨status, answered, -, own, reading⟩ := unfailing (fun turn member => by cases member) rfl
  have enough : (Utf8.encode "aabc".toList).length < 5 := by decide
  obtain ⟨whole, told⟩ := reading (Child.readsToEnd_judges enough)
  refine ⟨?_, whole, told⟩
  rw [told, whole] at own
  rw [answered, own.eq_verdict]
  exact congrArg Except.ok (if_pos (by decide))

/-- A child that takes two bytes, closes its input and ends with three, at a pipe for one byte. -/
example :
    let child := Child.reads 0 fun _ => .reads 0 fun _ => .closes (.ends (.exited 3))
    let surroundings : Surroundings :=
      ⟨fun _ => .ok child, 0, fun _ _ => true, fun _ _ => true, none⟩
    let fed := surroundings.host.feed ⟨"tool".toList, []⟩ "abcd".toList { turns := [] }
    fed.1 = .ok (.exited 3) ∧ fed.2.pipe.received = Utf8.encode "ab".toList := by
  constructor
  · cbv
  · cbv

end DocSamples
