import DocSamples.Proofs.Tool.Child
import DocSamples.Proofs.Tool.Journal

/-!
Contract: a text that is fed to a child, and how the child ends.

Owns:
- systems with one child behind a pipe, for every child and every course of events;
- the step: what one write to the pipe does;
- the run: what all writes do, and what becomes of the child after them;
- how a tool that was fed is answered for, by its journal and by its child.

A system decides how far the child gets between two requests, how many bytes go in with a write
and which requests fail.  A wait that would never end is answered with an error of its own, so an
answer without it says that nobody waited for ever.
-/

namespace DocSamples

/-! ## Systems with a child -/

/-- What a system decides about one write. -/
structure Turn where
  /-- Where the child stands when the write comes. -/
  pause : Child → Pipe → Bool
  /-- How many bytes go in, if there is room for them: one more than this at most. -/
  more : Nat
  /-- Why the write fails, if it does so although somebody may be listening. -/
  failure? : Option { cause : SystemError // cause ≠ .brokenPipe }

/-- What a system decides about everything else. -/
structure Surroundings where
  launch : Command → Except SystemError Child
  /-- A pipe holds one byte more than this. -/
  capacity : Nat
  pauseAtClose : Child → Pipe → Bool
  pauseAtKill : Child → Pipe → Bool
  waitFailure? : Option SystemError

/-- A child and its pipe, and what is decided about the writes to come.  Before the launch the
child has ended. -/
structure Attended where
  turns : List Turn
  child : Child := .ends .killed
  pipe : Pipe := {}

def Turn.plain : Turn where
  pause _ _ := true
  more := 0
  failure? := none

def Attended.run (stop : Child → Pipe → Bool) (state : Attended) : Attended :=
  { state with
    child := (state.child.runUntil stop state.pipe).1
    pipe := (state.child.runUntil stop state.pipe).2 }

def Attended.put (bytes : Bytes) (state : Attended) : Attended :=
  { state with pipe := { state.pipe with held := state.pipe.held ++ bytes } }

namespace Surroundings

variable (surroundings : Surroundings)

/-- Whether a write need not wait: there is room, or nobody listens. -/
def answersWrite (child : Child) (pipe : Pipe) : Bool :=
  !child.listensTo pipe || decide (pipe.held.length ≤ surroundings.capacity)

def write (bytes : Bytes) (state : Attended) : Except SystemError Nat × Attended :=
  let turn := state.turns.headD .plain
  let paused := { state with turns := state.turns.tail }.run turn.pause
  match turn.failure? with
  | some cause => (.error cause.1, paused)
  | none =>
    let ready := paused.run surroundings.answersWrite
    if ready.child.listensTo ready.pipe then
      let room := surroundings.capacity + 1 - ready.pipe.held.length
      let taken := bytes.take (min (turn.more + 1) room)
      (.ok taken.length, ready.put taken)
    else (.error .brokenPipe, ready)

def closeInput (state : Attended) : Attended :=
  let paused := state.run surroundings.pauseAtClose
  { paused with pipe := { paused.pipe with writable := false } }

/-- Kill the child, unless it has ended. -/
def kill (state : Attended) : Attended :=
  let paused := state.run surroundings.pauseAtKill
  if paused.child.hasEnded then paused else { paused with child := .ends .killed }

def endlessWait : SystemError :=
  .other "the child does not end".toList

def wait (state : Attended) : Except SystemError Status × Attended :=
  match surroundings.waitFailure? with
  | some cause => (.error cause, state)
  | none =>
    let settled := state.run fun _ _ => false
    match settled.child with
    | .ends status => (.ok status, settled)
    | .closes _ | .reads .. => (.error endlessWait, settled)

/-- A system that runs one child at a time and has no files. -/
def host : Host Attended where
  stat _ _ := .error .notFound
  lstat _ _ := .error .notFound
  list _ _ := .error .notFound
  read _ _ := .error .notFound
  workingDirectory _ := .error .notFound
  spawn command state :=
    match surroundings.launch command with
    | .error cause => (.error cause, state)
    | .ok child => (.ok 0, { turns := state.turns, child })
  write _ := surroundings.write
  closeInput _ := surroundings.closeInput
  kill _ := surroundings.kill
  wait _ := surroundings.wait
  run _ state := (.error .notFound, state)
  capture _ state := (.error .notFound, state)
  print _ state := state
  printError _ state := state
  log _ _ state := state

end Surroundings

/-! ## What is known of a child that is fed -/

/-- A child that has been written to, whose input has not ended. -/
structure Attended.Fed (start : Child) (written : Bytes) (state : Attended) : Prop where
  carries : state.pipe.Carries written
  continues : start.Continues state.child state.pipe
  writable : state.pipe.writable = true

namespace Attended

variable {start : Child} {written : Bytes} {state : Attended}

theorem Fed.notTold (fed : state.Fed start written) : state.pipe.told = false := by
  cases told : state.pipe.told with
  | false => rfl
  | true =>
      have closed := (fed.carries.told_only told).2
      rw [fed.writable] at closed
      exact absurd closed nofun

private theorem Fed.run (fed : state.Fed start written) (stop : Child → Pipe → Bool) :
    (state.run stop).Fed start written where
  carries := Child.runUntil_keeps (fun _ pipe => pipe.Carries written)
    Child.Step.carries fed.carries
  continues := Child.runUntil_keeps _ Child.Step.continues fed.continues
  writable := (Child.runUntil_writable state.child state.pipe).trans fed.writable

private theorem Fed.put (fed : state.Fed start written) (bytes : Bytes) :
    (state.put bytes).Fed start (written ++ bytes) where
  carries := by
    constructor
    · show state.pipe.received ++ (state.pipe.held ++ bytes) = written ++ bytes
      rw [← List.append_assoc, fed.carries.accounted]
    · intro told
      exact absurd (fed.notTold.symm.trans told) nofun
  continues := by
    cases fed.continues with
    | listening readable notTold own attentive => exact .listening readable notTold own attentive
    | settled silent own attentive =>
        exact .settled (.inl (silent.closed_of_notTold fed.notTold)) own attentive
  writable := fed.writable

end Attended

/-! ## One write -/

inductive Wrote (start : Child) (written bytes : Bytes) (turns : List Turn) :
    Except SystemError Nat → Attended → Prop
  | some {taken rest : Bytes} {after : Attended} (shape : bytes = taken ++ rest)
      (nonempty : taken ≠ []) (fed : after.Fed start (written ++ taken)) :
      Wrote start written bytes turns (.ok taken.length) after
  | refused {after : Attended} (fed : after.Fed start written)
      (unheard : after.child.listensTo after.pipe = false) :
      Wrote start written bytes turns (.error .brokenPipe) after
  | failed {after : Attended} {cause : SystemError} (fed : after.Fed start written)
      (other : cause ≠ .brokenPipe) (decided : ∃ turn ∈ turns, turn.failure? ≠ none) :
      Wrote start written bytes turns (.error cause) after

/-- A write that is answered with a number has put so many bytes in. -/
theorem Wrote.of_ok {start : Child} {written bytes : Bytes} {turns : List Turn} {count : Nat}
    {after : Attended} (wrote : Wrote start written bytes turns (.ok count) after) :
    ∃ taken rest, bytes = taken ++ rest ∧ taken ≠ [] ∧ taken.length = count ∧
      after.Fed start (written ++ taken) := by
  generalize given : (Except.ok count : Except SystemError Nat) = answer at wrote
  cases wrote with
  | some shape nonempty fed => exact ⟨_, _, shape, nonempty, (Except.ok.inj given).symm, fed⟩
  | refused => exact absurd given nofun
  | failed => exact absurd given nofun

namespace Surroundings

variable (surroundings : Surroundings) {start : Child} {written : Bytes}

private theorem room_of_answersWrite {child : Child} {pipe : Pipe}
    (answers : surroundings.answersWrite child pipe = true)
    (listening : child.listensTo pipe = true) : pipe.held.length ≤ surroundings.capacity := by
  rw [answersWrite, listening] at answers
  exact of_decide_eq_true answers

/-- Once a write has waited, there is room for some of it if the child listens. -/
theorem room_of_listening (state : Attended)
    (listening : (state.run surroundings.answersWrite).child.listensTo
      (state.run surroundings.answersWrite).pipe = true) :
    (state.run surroundings.answersWrite).pipe.held.length ≤ surroundings.capacity := by
  rcases Child.runUntil_stops state.child state.pipe with stopped | heldUp
  · exact surroundings.room_of_answersWrite stopped listening
  · rcases Child.act?_eq_none heldUp with ended | ⟨nothing, -⟩
    · rw [Child.listensTo] at listening
      exact absurd (Bool.and_eq_true_iff.1 listening).2 (by
        rw [Bool.not_eq_true', Bool.not_eq_false]
        exact ended)
    · exact Nat.le_trans (Nat.le_of_eq (congrArg List.length nothing)) (Nat.zero_le _)

private theorem write_turns (bytes : Bytes) (state : Attended) :
    (surroundings.write bytes state).2.turns = state.turns.tail := by
  unfold write
  dsimp only
  split
  · rfl
  · split
    · rfl
    · rfl

/-- One write: some bytes go in, or it fails. -/
theorem wrote_write {state : Attended} (fed : state.Fed start written) {bytes : Bytes}
    (nonempty : bytes ≠ []) :
    Wrote start written bytes state.turns (surroundings.write bytes state).1
      (surroundings.write bytes state).2 := by
  have turned : Attended.Fed start written { state with turns := state.turns.tail } :=
    ⟨fed.carries, fed.continues, fed.writable⟩
  have paused := turned.run (state.turns.headD .plain).pause
  unfold write
  dsimp only
  split
  next cause failure =>
    refine .failed paused cause.2 ?_
    cases turns : state.turns with
    | nil =>
        rw [turns] at failure
        exact absurd failure nofun
    | cons turn turns =>
        rw [turns] at failure
        refine ⟨turn, List.mem_cons_self, ?_⟩
        rw [List.headD_cons] at failure
        rw [failure]
        exact nofun
  next =>
    have ready := paused.run surroundings.answersWrite
    split
    next listening =>
      have room := surroundings.room_of_listening _ listening
      refine .some (List.take_append_drop _ bytes).symm ?_ (ready.put _)
      rw [Ne, List.take_eq_nil_iff, not_or]
      refine ⟨?_, nonempty⟩
      have size := Nat.sub_pos_of_lt (Nat.lt_succ_of_le room)
      show min _ _ ≠ 0
      omega
    next unheard => exact .refused ready (Bool.not_eq_true _ ▸ unheard)

end Surroundings

/-! ## All writes -/

/-- What writing a whole byte string can come to.  The first argument after the bytes is what
was decided about the writes. -/
inductive WroteAll (start : Child) (whole : Bytes) (turns : List Turn) :
    Option SystemError → Attended → Prop
  | all {after : Attended} (fed : after.Fed start whole) : WroteAll start whole turns none after
  | refused {written : Bytes} {after : Attended} (within : written <+: whole)
      (fed : after.Fed start written) (unheard : after.child.listensTo after.pipe = false) :
      WroteAll start whole turns (some .brokenPipe) after
  | failed {written : Bytes} {after : Attended} {cause : SystemError} (within : written <+: whole)
      (fed : after.Fed start written) (other : cause ≠ .brokenPipe)
      (decided : ∃ turn ∈ turns, turn.failure? ≠ none) :
      WroteAll start whole turns (some cause) after

/-- Decisions about fewer writes are among those about more. -/
theorem WroteAll.of_tail {start : Child} {whole : Bytes} {turns : List Turn}
    {failure? : Option SystemError} {after : Attended}
    (wrote : WroteAll start whole turns.tail failure? after) :
    WroteAll start whole turns failure? after := by
  cases wrote with
  | all fed => exact .all fed
  | refused within fed unheard => exact .refused within fed unheard
  | failed within fed other decided =>
      obtain ⟨turn, member, failing⟩ := decided
      exact .failed within fed other ⟨turn, List.mem_of_mem_tail member, failing⟩

namespace Surroundings

variable (surroundings : Surroundings) {start : Child}

/-- The run of all writes, of which each goes on where the one before ended. -/
theorem wroteAll_writeAll (process : ProcessId) (bytes : Bytes) (state : Attended)
    {written : Bytes} (fed : state.Fed start written) :
    WroteAll start (written ++ bytes) state.turns
      (surroundings.host.writeAll process bytes state).1
      (surroundings.host.writeAll process bytes state).2 := by
  -- The cases are the answers to the first write: nothing to write, a failure, none taken, some.
  induction bytes, state using Processes.writeAll.induct surroundings.host.toProcesses process
    generalizing written with
  | case1 state =>
      rw [Processes.writeAll, List.append_nil]
      exact .all fed
  | case2 state byte rest cause after answered =>
      rw [Processes.writeAll, answered]
      have wrote := surroundings.wrote_write fed (List.cons_ne_nil byte rest)
      change surroundings.write (byte :: rest) state = _ at answered
      rw [answered] at wrote
      cases wrote with
      | refused fedAfter unheard => exact .refused (List.prefix_append _ _) fedAfter unheard
      | failed fedAfter other decided =>
          exact .failed (List.prefix_append _ _) fedAfter other decided
  | case3 state byte rest after answered =>
      have wrote := surroundings.wrote_write fed (List.cons_ne_nil byte rest)
      change surroundings.write (byte :: rest) state = _ at answered
      rw [answered] at wrote
      obtain ⟨taken, -, -, nonempty, none, -⟩ := wrote.of_ok
      exact absurd (List.length_eq_zero_iff.1 none) nonempty
  | case4 state byte rest more after answered inductionHypothesis =>
      rw [Processes.writeAll, answered]
      have wrote := surroundings.wrote_write fed (List.cons_ne_nil byte rest)
      have turned := surroundings.write_turns (byte :: rest) state
      change surroundings.write (byte :: rest) state = _ at answered
      rw [answered] at wrote turned
      obtain ⟨taken, left, shape, -, size, fedAfter⟩ := wrote.of_ok
      have leftOver : rest.drop more = left := by
        have dropped := congrArg (List.drop (more + 1)) shape
        rw [← Nat.succ_eq_add_one, ← size, List.drop_left, size] at dropped
        exact dropped
      have goesOn := inductionHypothesis fedAfter
      change after.turns = _ at turned
      rw [turned, leftOver, List.append_assoc, ← shape, ← leftOver] at goesOn
      exact goesOn.of_tail

/-! ## The end of the input and of the child -/

theorem closeInput_keeps (Keeps : Child → Pipe → Prop)
    (step : ∀ {child pipe next left}, Child.Step child pipe next left → Keeps child pipe →
      Keeps next left)
    (closing : ∀ {child pipe}, Keeps child pipe → Keeps child { pipe with writable := false })
    {state : Attended} (holds : Keeps state.child state.pipe) :
    Keeps (surroundings.closeInput state).child (surroundings.closeInput state).pipe :=
  closing (Child.runUntil_keeps Keeps step holds)

theorem wait_keeps (Keeps : Child → Pipe → Prop)
    (step : ∀ {child pipe next left}, Child.Step child pipe next left → Keeps child pipe →
      Keeps next left)
    {state : Attended} (holds : Keeps state.child state.pipe) :
    Keeps (surroundings.wait state).2.child (surroundings.wait state).2.pipe := by
  unfold wait
  split
  · exact holds
  · dsimp only
    split
    · exact Child.runUntil_keeps Keeps step holds
    · exact Child.runUntil_keeps Keeps step holds
    · exact Child.runUntil_keeps Keeps step holds

/-- Nobody waits for ever for a child whose input has ended. -/
theorem exists_wait_ok (waitable : surroundings.waitFailure? = none) {state : Attended}
    (closed : state.pipe.writable = false) :
    ∃ status, (surroundings.wait state).1 = .ok status ∧
      (surroundings.wait state).2.child = .ends status := by
  obtain ⟨status, ends⟩ := Child.exists_runUntil_ends state.child closed
  have settled : (state.run fun _ _ => false).child = .ends status := ends
  refine ⟨status, ?_⟩
  unfold wait
  rw [waitable]
  dsimp only
  rw [settled]
  exact ⟨rfl, settled⟩

private theorem closeInput_carries {written : Bytes} {state : Attended}
    (carries : state.pipe.Carries written) :
    (surroundings.closeInput state).pipe.Carries written :=
  surroundings.closeInput_keeps (fun _ pipe => pipe.Carries written)
    Child.Step.carries
    (fun carries => ⟨carries.accounted, fun told => ⟨(carries.told_only told).1, rfl⟩⟩) carries

private theorem wait_carries {written : Bytes} {state : Attended}
    (carries : state.pipe.Carries written) :
    (surroundings.wait state).2.pipe.Carries written :=
  surroundings.wait_keeps (fun _ pipe => pipe.Carries written)
    Child.Step.carries carries

private theorem closeInput_isDeafTo {state : Attended} (deaf : state.child.IsDeafTo state.pipe) :
    (surroundings.closeInput state).child.IsDeafTo (surroundings.closeInput state).pipe :=
  surroundings.closeInput_keeps _ Child.Step.isDeafTo
    (fun deaf => ⟨deaf.notListening, deaf.notTold⟩) deaf

private theorem wait_isDeafTo {state : Attended} (deaf : state.child.IsDeafTo state.pipe) :
    (surroundings.wait state).2.child.IsDeafTo (surroundings.wait state).2.pipe :=
  surroundings.wait_keeps _ Child.Step.isDeafTo deaf

/-- A child that is killed has had some of what was written, and hears nothing any more. -/
theorem kill_fed {written : Bytes} {state : Attended} (fed : state.Fed start written) :
    (surroundings.kill state).pipe.Carries written ∧
      (surroundings.kill state).child.IsDeafTo (surroundings.kill state).pipe := by
  have paused := fed.run surroundings.pauseAtKill
  unfold kill
  dsimp only
  split
  next ended =>
    refine ⟨paused.carries, ?_, paused.notTold⟩
    unfold Child.listensTo
    rw [ended, Bool.not_true, Bool.and_false]
  next =>
    refine ⟨paused.carries, ?_, paused.notTold⟩
    exact Bool.and_false _

end Surroundings

/-! ## What has been delivered -/

/-- What a child has had of a byte string: a part from its start, and all of it if it has been
told the end. -/
structure Pipe.Delivered (whole : Bytes) (pipe : Pipe) : Prop where
  within : pipe.received <+: whole
  whole_of_told : pipe.told = true → pipe.received = whole

private theorem Pipe.Carries.delivered {written whole : Bytes} {pipe : Pipe}
    (carries : pipe.Carries written) (within : written <+: whole)
    (known : pipe.told = true → written = whole) : pipe.Delivered whole where
  within := (List.prefix_append _ _).trans (carries.accounted.symm ▸ within)
  whole_of_told told := by
    have accounted := carries.accounted
    rw [(carries.told_only told).1, List.append_nil] at accounted
    exact accounted.trans (known told)

private theorem Pipe.Carries.delivered_of_isDeafTo {written whole : Bytes} {child : Child}
    {pipe : Pipe}
    (carries : pipe.Carries written) (within : written <+: whole) (deaf : child.IsDeafTo pipe) :
    pipe.Delivered whole :=
  carries.delivered within fun told => absurd (deaf.notTold.symm.trans told) nofun

namespace Host

variable {World : Type} {host : Host World} {tool : Text} {process : ProcessId} {world : World}

private theorem awaitTool_of_ok {after : World} {status : Status}
    (waited : host.wait process world = (.ok status, after)) :
    host.awaitTool tool process world = (.ok status, after) := by
  rw [awaitTool, waited]

private theorem awaitTool_snd : (host.awaitTool tool process world).2 =
    (host.wait process world).2 := by
  unfold awaitTool
  rcases host.wait process world with ⟨cause | status, after⟩
  · rfl
  · rfl

end Host

namespace Surroundings

variable (surroundings : Surroundings)

/-- How a child has ended that was fed a byte string and then waited for. -/
structure EndsWell (start : Child) (answer : Except ToolError Status) (state : Attended)
    (status : Status) : Prop where
  answered : answer = .ok status
  ended : state.child = .ends status
  ownEnd : start.EndsAfter state.pipe.received state.pipe.told status
  told_of_reading : ∀ {whole}, state.pipe.received <+: whole → start.ReadsToEnd whole →
    state.pipe.told = true

private theorem endsWell_of_continues {start : Child} {answer : Except ToolError Status}
    {state : Attended} {status : Status} (answered : answer = .ok status)
    (ended : state.child = .ends status) (continues : start.Continues state.child state.pipe) :
    EndsWell start answer state status := by
  rw [ended] at continues
  cases continues with
  | listening _ notTold own attentive =>
      refine ⟨answered, ended, ?_, ?_⟩
      · have ending := own (.now status)
        rw [List.append_nil, ← notTold] at ending
        exact ending
      · rintro _ ⟨rest, rfl⟩ reading
        exact absurd (attentive reading) id
  | settled _ own attentive =>
      refine ⟨answered, ended, own, ?_⟩
      rintro _ ⟨rest, rfl⟩ reading
      exact attentive reading

/-- A child that is waited for after its input has ended. -/
theorem awaitTool_closeInput (tool : Text) (process : ProcessId) {start : Child} {written : Bytes}
    {state : Attended} (fed : state.Fed start written)
    (waitable : surroundings.waitFailure? = none) :
    let awaited := surroundings.host.awaitTool tool process
      (surroundings.host.closeInput process state)
    ∃ status, EndsWell start awaited.1 awaited.2 status := by
  intro awaited
  have closed : (surroundings.closeInput state).pipe.writable = false := rfl
  obtain ⟨status, answered, ended⟩ := surroundings.exists_wait_ok waitable closed
  have continues : start.Continues (surroundings.wait (surroundings.closeInput state)).2.child
      (surroundings.wait (surroundings.closeInput state)).2.pipe :=
    surroundings.wait_keeps _ Child.Step.continues
      (surroundings.closeInput_keeps _ Child.Step.continues
        Child.Continues.endInput fed.continues)
  have awaitedEq : awaited = (.ok status, (surroundings.wait (surroundings.closeInput state)).2) :=
    Host.awaitTool_of_ok (Prod.ext answered rfl)
  rw [awaitedEq]
  exact ⟨status, endsWell_of_continues rfl ended continues⟩

/-- **A text that is fed to a child.**  Once launched, it gets a part of the text from its start,
and all of it if it is told the end.  Unless a write or the wait fails as the system decided, the
answer is the status with which the child ends by itself after what it has had, however much that
is, and a child that reads the text to the end is told it. -/
theorem feed_child (command : Command) (text : Text) (state : Attended) {child : Child}
    (launched : surroundings.launch command = .ok child) :
    let fed := surroundings.host.feed command text state
    fed.2.pipe.Delivered (Utf8.encode text) ∧
      ((∀ turn ∈ state.turns, turn.failure? = none) → surroundings.waitFailure? = none →
        ∃ status, EndsWell child fed.1 fed.2 status) := by
  let started : Attended := { turns := state.turns, child }
  have spawned : surroundings.host.spawn command state = (.ok 0, started) := by
    simp only [host, launched, started]
  have fresh : started.Fed child [] := ⟨⟨rfl, nofun⟩, .fresh child, rfl⟩
  have wrote := surroundings.wroteAll_writeAll 0 (Utf8.encode text) started fresh
  rw [List.nil_append] at wrote
  intro fed
  have fedEq : fed = surroundings.host.feed command text state := rfl
  rw [Host.feed, spawned] at fedEq
  dsimp only at fedEq
  generalize surroundings.host.writeAll 0 (Utf8.encode text) started = written at wrote fedEq
  obtain ⟨failure?, after⟩ := written
  cases wrote with
  | all fedAfter =>
      have awaited : fed = surroundings.host.awaitTool command.program 0
        (surroundings.host.closeInput 0 after) := fedEq
      rw [awaited]
      refine ⟨?_, fun _ waitable => surroundings.awaitTool_closeInput _ _ fedAfter waitable⟩
      rw [Host.awaitTool_snd]
      exact (surroundings.wait_carries (surroundings.closeInput_carries fedAfter.carries)).delivered
        (List.prefix_refl _) fun _ => rfl
  | refused within fedAfter unheard =>
      have awaited : fed = surroundings.host.awaitTool command.program 0
        (surroundings.host.closeInput 0 after) := fedEq
      rw [awaited]
      refine ⟨?_, fun _ waitable => surroundings.awaitTool_closeInput _ _ fedAfter waitable⟩
      rw [Host.awaitTool_snd]
      exact (surroundings.wait_carries
        (surroundings.closeInput_carries fedAfter.carries)).delivered_of_isDeafTo within
        (surroundings.wait_isDeafTo (surroundings.closeInput_isDeafTo ⟨unheard, fedAfter.notTold⟩))
  | @failed _ _ cause within fedAfter other decided =>
      have abandoned : fed = (.error ⟨.input, command.program, cause⟩,
          surroundings.closeInput (surroundings.wait (surroundings.kill after)).2) := by
        rw [fedEq]
        split
        next given => exact absurd (Prod.mk.inj given).1 nofun
        next given => exact absurd (Option.some.inj (Prod.mk.inj given).1) other
        next given =>
          obtain ⟨same, rfl⟩ := Prod.mk.inj given
          obtain rfl := Option.some.inj same
          rfl
      rw [abandoned]
      obtain ⟨carries, deaf⟩ := surroundings.kill_fed fedAfter
      refine ⟨?_, fun unfailing _ => ?_⟩
      · exact (surroundings.closeInput_carries
          (surroundings.wait_carries carries)).delivered_of_isDeafTo within
          (surroundings.closeInput_isDeafTo (surroundings.wait_isDeafTo deaf))
      · obtain ⟨turn, member, failing⟩ := decided
        exact absurd (unfailing turn member) failing

/-- A tool that reads its input to the end decides by the whole text, whatever pieces it reads and
however the pipe is filled. -/
theorem feed_judges (command : Command) (text : Text) (state : Attended)
    {verdict : Bytes → Status} {more most : Nat}
    (launched : surroundings.launch command = .ok (.judges verdict more most []))
    (enough : (Utf8.encode text).length < most)
    (unfailing : ∀ turn ∈ state.turns, turn.failure? = none)
    (waitable : surroundings.waitFailure? = none) :
    (surroundings.host.feed command text state).1 = .ok (verdict (Utf8.encode text)) := by
  obtain ⟨delivered, ends⟩ := surroundings.feed_child command text state launched
  obtain ⟨status, well⟩ := ends unfailing waitable
  have told := well.told_of_reading delivered.within (Child.readsToEnd_judges enough)
  have own := well.ownEnd
  rw [told, delivered.whole_of_told told] at own
  rw [well.answered, own.eq_verdict, List.nil_append]

end Surroundings

end DocSamples
