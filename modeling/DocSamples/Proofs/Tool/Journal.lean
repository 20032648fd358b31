import DocSamples.Tool.Toolchain

/-!
Contract: what is done to processes, and what running a tool does.

Owns:
- worlds that keep a journal of what is done to processes in them (`Journaled`);
- the writes by which a byte string is offered to a pipe (`Offers`);
- runs of a tool, each with its entries in the journal and its answer (`ToolRun`);
- the run that feeding a text to a tool is.

Does not own: which runs a check makes (`Proofs/Check/Launch`).

A host and its journaled form differ in nothing but the journal.  Commands whose output is
captured are how a source is asked, and are not entered.
-/

namespace DocSamples

variable {World : Type}

/-! ## Worlds with a journal -/

inductive ProcessEvent where
  | spawn (command : Command) (answer : Except SystemError ProcessId)
  | write (process : ProcessId) (bytes : Bytes) (answer : Except SystemError Nat)
  | closeInput (process : ProcessId)
  | kill (process : ProcessId)
  | wait (process : ProcessId) (answer : Except SystemError Status)
  | run (command : Command) (answer : Except SystemError Status)

def ProcessEvent.launch? : ProcessEvent → Option Command
  | .spawn command _ | .run command _ => some command
  | .write .. | .closeInput _ | .kill _ | .wait .. => none

structure Journaled (World : Type) where
  world : World
  journal : List ProcessEvent

def Journaled.enter {Answer : Type} (request : World → Answer × World)
    (event : Answer → ProcessEvent) (state : Journaled World) : Answer × Journaled World :=
  ((request state.world).1,
    ⟨(request state.world).2, state.journal ++ [event (request state.world).1]⟩)

/-- A host that keeps a journal. -/
def Host.journaled (host : Host World) : Host (Journaled World) where
  stat path state := host.stat path state.world
  lstat path state := host.lstat path state.world
  list path state := host.list path state.world
  read path state := host.read path state.world
  workingDirectory state := host.workingDirectory state.world
  spawn command := Journaled.enter (host.spawn command) (.spawn command)
  write process bytes := Journaled.enter (host.write process bytes) (.write process bytes)
  closeInput process state :=
    ⟨host.closeInput process state.world, state.journal ++ [.closeInput process]⟩
  kill process state := ⟨host.kill process state.world, state.journal ++ [.kill process]⟩
  wait process := Journaled.enter (host.wait process) (.wait process)
  run command := Journaled.enter (host.run command) (.run command)
  capture command state :=
    ((host.capture command state.world).1, ⟨(host.capture command state.world).2, state.journal⟩)
  print text state := ⟨host.print text state.world, state.journal⟩
  printError text state := ⟨host.printError text state.world, state.journal⟩
  log level text state := ⟨host.log level text state.world, state.journal⟩

/-! ## Offering bytes to a pipe -/

/-- One write to a pipe: the bytes, and how many of them went in. -/
structure PipeWrite where
  bytes : Bytes
  answer : Except SystemError Nat

def PipeWrite.event (process : ProcessId) (write : PipeWrite) : ProcessEvent :=
  .write process write.bytes write.answer

/-- Whether writes offer a byte string to a pipe: the first write has all of it, each other
has what the one before left over, and they end when nothing is left or a write fails.  The
last argument is the failure. -/
inductive Offers : Bytes → List PipeWrite → Option SystemError → Prop
  | complete : Offers [] [] none
  | further {bytes : Bytes} {writes : List PipeWrite} {failure? : Option SystemError}
      (nonempty : bytes ≠ []) (more : Nat)
      (others : Offers (bytes.drop (more + 1)) writes failure?) :
      Offers bytes (⟨bytes, .ok (more + 1)⟩ :: writes) failure?
  | stalled {bytes : Bytes} (nonempty : bytes ≠ []) :
      Offers bytes [⟨bytes, .ok 0⟩] (some stalledWrite)
  | failed {bytes : Bytes} (nonempty : bytes ≠ []) (cause : SystemError) :
      Offers bytes [⟨bytes, .error cause⟩] (some cause)

namespace Host

private theorem spawn_journaled (host : Host World) (command : Command) (world : World)
    (journal : List ProcessEvent) :
    host.journaled.spawn command ⟨world, journal⟩ =
      ((host.spawn command world).1, ⟨(host.spawn command world).2,
        journal ++ [.spawn command (host.spawn command world).1]⟩) := rfl

private theorem write_journaled (host : Host World) (process : ProcessId) (bytes : Bytes)
    (world : World) (journal : List ProcessEvent) :
    host.journaled.write process bytes ⟨world, journal⟩ =
      ((host.write process bytes world).1, ⟨(host.write process bytes world).2,
        journal ++ [.write process bytes (host.write process bytes world).1]⟩) := rfl

theorem wait_journaled (host : Host World) (process : ProcessId) (world : World)
    (journal : List ProcessEvent) :
    host.journaled.wait process ⟨world, journal⟩ =
      ((host.wait process world).1, ⟨(host.wait process world).2,
        journal ++ [.wait process (host.wait process world).1]⟩) := rfl

theorem kill_journaled (host : Host World) (process : ProcessId) (world : World)
    (journal : List ProcessEvent) :
    host.journaled.kill process ⟨world, journal⟩ =
      ⟨host.kill process world, journal ++ [.kill process]⟩ := rfl

private theorem closeInput_journaled (host : Host World) (process : ProcessId) (world : World)
    (journal : List ProcessEvent) :
    host.journaled.closeInput process ⟨world, journal⟩ =
      ⟨host.closeInput process world, journal ++ [.closeInput process]⟩ := rfl

theorem capture_journaled (host : Host World) (command : Command) (state : Journaled World) :
    host.journaled.capture command state =
      ((host.capture command state.world).1,
        ⟨(host.capture command state.world).2, state.journal⟩) := rfl

/-- Writing a byte string offers it to the pipe. -/
theorem writeAll_journaled (host : Host World) (process : ProcessId) (bytes : Bytes)
    (world : World) (journal : List ProcessEvent) :
    ∃ writes, Offers bytes writes (host.writeAll process bytes world).1 ∧
      host.journaled.writeAll process bytes ⟨world, journal⟩ =
        ((host.writeAll process bytes world).1,
          ⟨(host.writeAll process bytes world).2,
            journal ++ writes.map (PipeWrite.event process)⟩) := by
  -- The cases are the answers to the first write: nothing to write, a failure, none taken, some.
  induction bytes, world using Processes.writeAll.induct host.toProcesses process
    generalizing journal with
  | case1 world =>
      refine ⟨[], ?_, ?_⟩
      · rw [Processes.writeAll]
        exact .complete
      · simp [Processes.writeAll]
  | case2 world byte rest cause after written =>
      refine ⟨[⟨byte :: rest, .error cause⟩], ?_, ?_⟩
      · rw [Processes.writeAll, written]
        exact .failed (List.cons_ne_nil _ _) cause
      · simp [Processes.writeAll, write_journaled, written, PipeWrite.event]
  | case3 world byte rest after written =>
      refine ⟨[⟨byte :: rest, .ok 0⟩], ?_, ?_⟩
      · rw [Processes.writeAll, written]
        exact .stalled (List.cons_ne_nil _ _)
      · simp [Processes.writeAll, write_journaled, written, PipeWrite.event]
  | case4 world byte rest more after written inductionHypothesis =>
      obtain ⟨writes, offers, goesOn⟩ :=
        inductionHypothesis (journal ++ [.write process (byte :: rest) (.ok (more + 1))])
      have unfolded : host.writeAll process (byte :: rest) world =
          host.writeAll process (rest.drop more) after := by
        rw [Processes.writeAll, written]
      rw [unfolded]
      refine ⟨⟨byte :: rest, .ok (more + 1)⟩ :: writes, ?_, ?_⟩
      · exact .further (List.cons_ne_nil _ _) more offers
      · rw [Processes.writeAll, write_journaled, written]
        dsimp only
        rw [goesOn, List.append_assoc]
        rfl

end Host

/-! ## Runs of a tool -/

inductive ToolRun where
  | refused (command : Command) (cause : SystemError)
  | awaited (command : Command) (process : ProcessId) (writes : List PipeWrite)
      (ended : Except SystemError Status)
  /-- The process could not be given its input; it was killed, and waited for. -/
  | abandoned (command : Command) (process : ProcessId) (writes : List PipeWrite)
      (cause : SystemError) (ended : Except SystemError Status)

namespace ToolRun

def command : ToolRun → Command
  | .refused command _ | .awaited command _ _ _ | .abandoned command _ _ _ _ => command

def events : ToolRun → List ProcessEvent
  | .refused command cause => [.spawn command (.error cause)]
  | .awaited command process writes ended =>
    .spawn command (.ok process) ::
      (writes.map (PipeWrite.event process) ++ [.closeInput process, .wait process ended])
  | .abandoned command process writes _ ended =>
    .spawn command (.ok process) ::
      (writes.map (PipeWrite.event process) ++
        [.kill process, .wait process ended, .closeInput process])

def answer : ToolRun → Except ToolError Status
  | .refused command cause => .error ⟨.launch, command.program, cause⟩
  | .awaited command _ _ (.error cause) => .error ⟨.waiting, command.program, cause⟩
  | .awaited _ _ _ (.ok status) => .ok status
  | .abandoned command _ _ cause _ => .error ⟨.input, command.program, cause⟩

/-- Whether a run, once launched, offers a text to the process, and is given up exactly if a
write fails in another way than with a broken pipe. -/
def Feeds (text : Text) : ToolRun → Prop
  | .refused .. => True
  | .awaited _ _ writes _ =>
    Offers (Utf8.encode text) writes none ∨ Offers (Utf8.encode text) writes (some .brokenPipe)
  | .abandoned _ _ writes cause _ =>
    Offers (Utf8.encode text) writes (some cause) ∧ cause ≠ .brokenPipe

/-- A run launches its command and nothing else. -/
theorem launches_events (run : ToolRun) :
    run.events.filterMap ProcessEvent.launch? = [run.command] := by
  have noneWritten : ∀ (process : ProcessId) (writes : List PipeWrite),
      (writes.map (PipeWrite.event process)).filterMap ProcessEvent.launch? = [] := by
    intro process writes
    rw [List.filterMap_eq_nil_iff]
    intro event member
    obtain ⟨write, _, rfl⟩ := List.mem_map.1 member
    rfl
  cases run with
  | refused command cause => rfl
  | awaited command process writes ended =>
      simp [events, ProcessEvent.launch?, noneWritten, ToolRun.command]
  | abandoned command process writes cause ended =>
      simp [events, ProcessEvent.launch?, noneWritten, ToolRun.command]

/-- A run that answers with a status is one whose process has ended with it. -/
theorem eq_awaited_of_answer {run : ToolRun} {status : Status}
    (answered : run.answer = .ok status) :
    ∃ process writes, run = .awaited run.command process writes (.ok status) := by
  cases run with
  | refused command cause => exact absurd answered (by simp [answer])
  | awaited command process writes ended =>
      cases ended with
      | error cause => exact absurd answered (by simp [answer])
      | ok found =>
          obtain rfl : found = status := Except.ok.inj answered
          exact ⟨process, writes, rfl⟩
  | abandoned command process writes cause ended => exact absurd answered (by simp [answer])

end ToolRun

namespace Host

/-- Closing the pipe of a launched process and waiting for it completes a run. -/
theorem awaitTool_journaled (host : Host World) (command : Command) (process : ProcessId)
    (writes : List PipeWrite) (world : World) (journal : List ProcessEvent) :
    let awaited := host.awaitTool command.program process (host.closeInput process world)
    let fed := journal ++ [.spawn command (.ok process)] ++ writes.map (PipeWrite.event process)
    ∃ ended, (ToolRun.awaited command process writes ended).answer = awaited.1 ∧
      host.journaled.awaitTool command.program process
          (host.journaled.closeInput process ⟨world, fed⟩) =
        (awaited.1,
          ⟨awaited.2, journal ++ (ToolRun.awaited command process writes ended).events⟩) := by
  intro awaited fed
  rw [closeInput_journaled]
  simp only [awaited, awaitTool, wait_journaled]
  rcases host.wait process (host.closeInput process world) with ⟨cause | status, after⟩
  · exact ⟨.error cause, rfl, by simp [ToolRun.events, fed]⟩
  · exact ⟨.ok status, rfl, by simp [ToolRun.events, fed]⟩

/-- Feeding a text to a tool is one run of it.  The answer and the world are those without a
journal. -/
theorem feed_journaled (host : Host World) (command : Command) (text : Text) (world : World)
    (journal : List ProcessEvent) :
    ∃ run : ToolRun, run.command = command ∧ run.Feeds text ∧
      run.answer = (host.feed command text world).1 ∧
      host.journaled.feed command text ⟨world, journal⟩ =
        ((host.feed command text world).1,
          ⟨(host.feed command text world).2, journal ++ run.events⟩) := by
  unfold feed
  rw [spawn_journaled]
  rcases spawned : host.spawn command world with ⟨cause | process, started⟩
  · exact ⟨.refused command cause, rfl, trivial, rfl, rfl⟩
  · dsimp only
    obtain ⟨writes, offers, written⟩ := host.writeAll_journaled process (Utf8.encode text) started
      (journal ++ [.spawn command (.ok process)])
    rw [written]
    rcases wrote : host.writeAll process (Utf8.encode text) started with ⟨failure?, fed⟩
    rw [wrote] at offers
    dsimp only at offers ⊢
    -- A broken pipe is no failure of the run: the process is waited for as after a full write.
    by_cases broken : failure? = some .brokenPipe
    · rw [broken] at offers ⊢
      obtain ⟨ended, answered, awaited⟩ := host.awaitTool_journaled command process writes
        (host.log .debug (command.program ++ " closed stdin early".toList) fed) journal
      exact ⟨.awaited command process writes ended, rfl, .inr offers, answered, awaited⟩
    · cases failure? with
      | none =>
          obtain ⟨ended, answered, awaited⟩ :=
            host.awaitTool_journaled command process writes fed journal
          exact ⟨.awaited command process writes ended, rfl, .inl offers, answered, awaited⟩
      | some cause =>
          have other : cause ≠ .brokenPipe := fun same => broken (congrArg some same)
          simp only [abandon, kill_journaled, wait_journaled, closeInput_journaled]
          refine ⟨.abandoned command process writes cause
            (host.wait process (host.kill process fed)).1, rfl, ⟨offers, other⟩, ?_, ?_⟩
          · simp [ToolRun.answer]
          · simp [ToolRun.events]

end Host

end DocSamples
