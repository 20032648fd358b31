import DocSamples.System.Host

/-!
Contract: a child process at the reading end of a pipe.

Owns:
- children, by what they do with their input, and the pipe that it comes through;
- how a child ends by itself, and when it reads to the end of what comes;
- the step of a child: when it is held up, what it gets and when it learns of the end;
- runs of a child, as far as a stop condition says, and what steps and runs keep.

Does not own: the other end of the pipe (`Proofs/Tool/Delivery`).

A child is a finite tree: whatever it is given, it ends.  It may read as much or as little as it
likes, in pieces of any size, close its input and go on, and decide by what it has read.  So no
child asks for bytes for ever, and what reads to the end does so of a given text.
-/

namespace DocSamples

/-! ## Children and pipes -/

/-- What a process does with its input from now on. -/
inductive Child where
  | ends (status : Status)
  | closes (after : Child)
  /-- It asks for bytes, at most one more than the number says, and goes on by what it gets.
  No bytes stand for the end of the input. -/
  | reads (more : Nat) (after : Bytes → Child)

/-- A pipe, and what the child has had from it. -/
structure Pipe where
  held : Bytes := []
  received : Bytes := []
  writable : Bool := true
  readable : Bool := true
  /-- Whether the child has been told the end of its input. -/
  told : Bool := false

/-- The answer to a child that asks for bytes, and the pipe afterwards.  A pipe with nothing in
it holds the child up as long as it can be written to; an input that was closed gives nothing. -/
def Pipe.answer? (pipe : Pipe) (more : Nat) : Option (Bytes × Pipe) :=
  if pipe.readable then
    match pipe.held with
    | [] => if pipe.writable then none else some ([], { pipe with told := true })
    | byte :: others =>
      some (byte :: others.take more,
        { pipe with
          held := others.drop more
          received := pipe.received ++ byte :: others.take more })
  else some ([], pipe)

namespace Child

def hasEnded : Child → Bool
  | .ends _ => true
  | .closes _ | .reads .. => false

def listensTo (child : Child) (pipe : Pipe) : Bool :=
  pipe.readable && !child.hasEnded

/-! ## What a child does by itself -/

/-- How a child ends to which nothing more comes. -/
def statusUnfed : Child → Status
  | .ends status => status
  | .closes after => after.statusUnfed
  | .reads _ after => (after []).statusUnfed

/-- Whether a child ends with a status after having been given these bytes and no others, in
whatever pieces, and having been told the end or not.  Nothing comes any more once it has been
told the end or has closed its input. -/
inductive EndsAfter : Child → Bytes → Bool → Status → Prop
  | now (status : Status) : EndsAfter (.ends status) [] false status
  | closed (after : Child) : EndsAfter (.closes after) [] false after.statusUnfed
  | atEnd (more : Nat) (after : Bytes → Child) :
      EndsAfter (.reads more after) [] true (after []).statusUnfed
  | given {more : Nat} {after : Bytes → Child} {piece received : Bytes} {told : Bool}
      {status : Status} (nonempty : piece ≠ []) (asked : piece.length ≤ more + 1)
      (later : EndsAfter (after piece) received told status) :
      EndsAfter (.reads more after) (piece ++ received) told status

/-- Whether a child to which these bytes come reads on until it is told the end, in whatever
pieces they come. -/
def ReadsToEnd : Child → Bytes → Prop
  | .ends _, _ | .closes _, _ => False
  | .reads more after, coming =>
    ∀ piece rest, coming = piece ++ rest → piece ≠ [] → piece.length ≤ more + 1 →
      (after piece).ReadsToEnd rest

/-- A child that reads to the end, unless it has had so many pieces before, and ends with a verdict
on all that it has had. -/
def judges (verdict : Bytes → Status) (more : Nat) : Nat → Bytes → Child
  | 0, had => .ends (verdict had)
  | most + 1, had => .reads more fun piece =>
    if piece.isEmpty then .ends (verdict had) else judges verdict more most (had ++ piece)

section Judges

variable {verdict : Bytes → Status} {more most : Nat} {had : Bytes}

theorem readsToEnd_judges {coming : Bytes} (enough : coming.length < most) :
    (judges verdict more most had).ReadsToEnd coming := by
  induction most generalizing had coming with
  | zero => exact absurd enough (Nat.not_lt_zero _)
  | succ most inductionHypothesis =>
      rintro piece rest rfl nonempty -
      have size : 0 < piece.length := List.length_pos_iff.2 nonempty
      rw [List.length_append] at enough
      dsimp only
      rw [List.isEmpty_eq_false_iff.2 nonempty]
      exact inductionHypothesis (by omega)

theorem EndsAfter.eq_verdict {received : Bytes} {status : Status}
    (ends : (judges verdict more most had).EndsAfter received true status) :
    status = verdict (had ++ received) := by
  induction most generalizing had received with
  | zero => cases ends
  | succ most inductionHypothesis =>
      cases ends with
      | atEnd =>
          rw [List.append_nil]
          rfl
      | given nonempty asked later =>
          dsimp only at later
          rw [List.isEmpty_eq_false_iff.2 nonempty] at later
          rw [inductionHypothesis later, List.append_assoc]

end Judges

/-! ## Steps -/

/-- The next thing that a child does, unless it has ended or is held up. -/
def act? : Child → Pipe → Option (Child × Pipe)
  | .ends _, _ => none
  | .closes after, pipe => some (after, { pipe with readable := false })
  | .reads more after, pipe => (pipe.answer? more).map fun answer => (after answer.1, answer.2)

inductive Step : Child → Pipe → Child → Pipe → Prop
  | close (after : Child) (pipe : Pipe) :
      Step (.closes after) pipe after { pipe with readable := false }
  /-- It reads from an input that it has closed. -/
  | readClosed {pipe : Pipe} (more : Nat) (after : Bytes → Child) (closed : pipe.readable = false) :
      Step (.reads more after) pipe (after []) pipe
  | readEnd {pipe : Pipe} (more : Nat) (after : Bytes → Child) (listening : pipe.readable = true)
      (nothing : pipe.held = []) (ended : pipe.writable = false) :
      Step (.reads more after) pipe (after []) { pipe with told := true }
  | readPiece {pipe : Pipe} (more : Nat) (after : Bytes → Child) {piece rest : Bytes}
      (listening : pipe.readable = true) (held : pipe.held = piece ++ rest) (nonempty : piece ≠ [])
      (asked : piece.length ≤ more + 1) :
      Step (.reads more after) pipe (after piece)
        { pipe with held := rest, received := pipe.received ++ piece }

private theorem step_of_act? {child next : Child} {pipe left : Pipe}
    (acted : child.act? pipe = some (next, left)) : Step child pipe next left := by
  cases child with
  | ends status => exact absurd acted nofun
  | closes after =>
      obtain ⟨rfl, rfl⟩ := Prod.mk.inj (Option.some.inj acted)
      exact .close after pipe
  | reads more after =>
      obtain ⟨answer, answered, same⟩ := Option.map_eq_some_iff.1 acted
      obtain ⟨rfl, rfl⟩ := Prod.mk.inj same
      unfold Pipe.answer? at answered
      split at answered
      next listening =>
        split at answered
        next nothing =>
          split at answered
          next => exact absurd answered nofun
          next ended =>
            obtain rfl := Option.some.inj answered
            exact .readEnd more after listening nothing (Bool.not_eq_true _ ▸ ended)
        next byte others held =>
          obtain rfl := Option.some.inj answered
          refine .readPiece more after listening ?_ (List.cons_ne_nil _ _) ?_
          · rw [held, List.cons_append, List.take_append_drop]
          · exact Nat.succ_le_succ (List.length_take_le more others)
      next closed =>
        obtain rfl := Option.some.inj answered
        exact .readClosed more after (Bool.not_eq_true _ ▸ closed)

/-- Only an empty pipe that can be written to holds a child up. -/
theorem act?_eq_none {child : Child} {pipe : Pipe} (heldUp : child.act? pipe = none) :
    child.hasEnded = true ∨ (pipe.held = [] ∧ pipe.writable = true) := by
  cases child with
  | ends status => exact .inl rfl
  | closes after => exact absurd heldUp nofun
  | reads more after =>
      right
      rw [act?, Option.map_eq_none_iff, Pipe.answer?] at heldUp
      split at heldUp
      · split at heldUp
        next nothing =>
          split at heldUp
          next writable => exact ⟨nothing, writable⟩
          next => exact absurd heldUp nofun
        next => exact absurd heldUp nofun
      · exact absurd heldUp nofun

/-! ## Runs -/

/-- Let a child run until a condition holds, or it has ended or is held up. -/
def runUntil (stop : Child → Pipe → Bool) : Child → Pipe → Child × Pipe
  | .ends status, pipe => (.ends status, pipe)
  | .closes after, pipe =>
    if stop (.closes after) pipe then (.closes after, pipe)
    else after.runUntil stop { pipe with readable := false }
  | .reads more after, pipe =>
    if stop (.reads more after) pipe then (.reads more after, pipe)
    else
      match pipe.answer? more with
      | none => (.reads more after, pipe)
      | some (bytes, left) => (after bytes).runUntil stop left

variable {stop : Child → Pipe → Bool}

/-- What every step keeps, every run keeps. -/
theorem runUntil_keeps (Keeps : Child → Pipe → Prop)
    (step : ∀ {child pipe next left}, Step child pipe next left → Keeps child pipe →
      Keeps next left)
    {child : Child} {pipe : Pipe} (holds : Keeps child pipe) :
    Keeps (child.runUntil stop pipe).1 (child.runUntil stop pipe).2 := by
  induction child generalizing pipe with
  | ends status => exact holds
  | closes after inductionHypothesis =>
      unfold runUntil
      split
      · exact holds
      · exact inductionHypothesis (step (.close after pipe) holds)
  | reads more after inductionHypothesis =>
      unfold runUntil
      split
      · exact holds
      · cases answered : pipe.answer? more with
        | none => exact holds
        | some answer =>
            have acted : act? (.reads more after) pipe = some (after answer.1, answer.2) := by
              rw [act?, answered]
              rfl
            exact inductionHypothesis answer.1 (step (step_of_act? acted) holds)

/-- A run goes on as long as it can. -/
theorem runUntil_stops (child : Child) (pipe : Pipe) :
    let reached := child.runUntil stop pipe
    stop reached.1 reached.2 = true ∨ reached.1.act? reached.2 = none := by
  induction child generalizing pipe with
  | ends status => exact .inr rfl
  | closes after inductionHypothesis =>
      unfold runUntil
      split
      next stopped => exact .inl stopped
      next => exact inductionHypothesis _
  | reads more after inductionHypothesis =>
      unfold runUntil
      split
      next stopped => exact .inl stopped
      next =>
        cases answered : pipe.answer? more with
        | none =>
            right
            show act? (.reads more after) pipe = none
            rw [act?, answered]
            rfl
        | some answer => exact inductionHypothesis answer.1 answer.2

/-! ## What steps and runs keep -/

private theorem Step.writable_eq {child next : Child} {pipe left : Pipe}
    (step : Step child pipe next left) : left.writable = pipe.writable := by
  cases step with
  | close => rfl
  | readClosed => rfl
  | readEnd => rfl
  | readPiece => rfl

theorem runUntil_writable (child : Child) (pipe : Pipe) :
    (child.runUntil stop pipe).2.writable = pipe.writable :=
  runUntil_keeps (fun _ left => left.writable = pipe.writable)
    (fun step same => step.writable_eq.trans same) rfl

/-- A child that is not stopped ends, unless it is held up by an empty pipe at which somebody may
still write. -/
theorem exists_runUntil_ends (child : Child) {pipe : Pipe} (closed : pipe.writable = false) :
    ∃ status, (child.runUntil (fun _ _ => false) pipe).1 = .ends status := by
  rcases @runUntil_stops (fun _ _ => false) child pipe with stopped | heldUp
  · exact absurd stopped nofun
  · rcases act?_eq_none heldUp with ended | ⟨-, writable⟩
    · cases reached : (child.runUntil (fun _ _ => false) pipe).1 with
      | ends status => exact ⟨status, rfl⟩
      | closes after =>
          rw [reached] at ended
          exact absurd ended nofun
      | reads more after =>
          rw [reached] at ended
          exact absurd ended nofun
    · rw [runUntil_writable, closed] at writable
      exact absurd writable nofun

end Child

/-- What was written to a pipe is what has been read from it and then what it holds, and the end
is told only where nothing is left and nothing can come. -/
structure Pipe.Carries (written : Bytes) (pipe : Pipe) : Prop where
  accounted : pipe.received ++ pipe.held = written
  told_only : pipe.told = true → pipe.held = [] ∧ pipe.writable = false

/-- Whether nothing comes out of a pipe any more. -/
def Pipe.IsSilent (pipe : Pipe) : Prop :=
  pipe.readable = false ∨ pipe.told = true ∧ pipe.held = []

theorem Pipe.IsSilent.told_of_readable {pipe : Pipe} (silent : pipe.IsSilent)
    (readable : pipe.readable = true) : pipe.told = true ∧ pipe.held = [] :=
  silent.resolve_left fun closed => absurd (readable.symm.trans closed) nofun

theorem Pipe.IsSilent.closed_of_notTold {pipe : Pipe} (silent : pipe.IsSilent)
    (notTold : pipe.told = false) : pipe.readable = false :=
  silent.resolve_right fun ended => absurd (notTold.symm.trans ended.1) nofun

namespace Child

theorem Step.carries {child next : Child} {pipe left : Pipe} {written : Bytes}
    (step : Step child pipe next left) (carries : pipe.Carries written) :
    left.Carries written := by
  cases step with
  | close => exact ⟨carries.accounted, carries.told_only⟩
  | readClosed => exact carries
  | readEnd _ _ _ nothing ended => exact ⟨carries.accounted, fun _ => ⟨nothing, ended⟩⟩
  | @readPiece _ _ _ piece rest _ held nonempty _ =>
      constructor
      · rw [List.append_assoc, ← held]
        exact carries.accounted
      · intro told
        obtain ⟨nothing, -⟩ := carries.told_only told
        rw [held, List.append_eq_nil_iff] at nothing
        exact absurd nothing.1 nonempty

/-- A child has become what it is by reading what was received.  As long as more may come, it does
from now on what the start does after that; then all that is left is how it ends. -/
inductive Continues (start : Child) : Child → Pipe → Prop
  | listening {child : Child} {pipe : Pipe} (readable : pipe.readable = true)
      (notTold : pipe.told = false)
      (own : ∀ {more told status}, child.EndsAfter more told status →
        start.EndsAfter (pipe.received ++ more) told status)
      (attentive : ∀ {rest}, start.ReadsToEnd (pipe.received ++ rest) → child.ReadsToEnd rest) :
      Continues start child pipe
  | settled {child : Child} {pipe : Pipe}
      (silent : pipe.IsSilent)
      (own : start.EndsAfter pipe.received pipe.told child.statusUnfed)
      (attentive : ∀ {rest}, start.ReadsToEnd (pipe.received ++ rest) → pipe.told = true) :
      Continues start child pipe

theorem Continues.fresh (start : Child) : start.Continues start {} :=
  .listening rfl rfl (fun later => later) fun reading => reading

/-- That its input ends is nothing that a child notices before it reads on. -/
theorem Continues.endInput {start child : Child} {pipe : Pipe}
    (continues : start.Continues child pipe) :
    start.Continues child { pipe with writable := false } := by
  cases continues with
  | listening readable notTold own attentive => exact .listening readable notTold own attentive
  | settled silent own attentive => exact .settled silent own attentive

theorem Step.continues {start child next : Child} {pipe left : Pipe}
    (step : Step child pipe next left) (continues : start.Continues child pipe) :
    start.Continues next left := by
  -- What a listening child does is a clause of `EndsAfter`; a settled one gets nothing more.
  cases step with
  | close after =>
      cases continues with
      | listening readable notTold own attentive =>
          refine .settled (.inl rfl) ?_ fun reading => absurd (attentive reading) id
          have ending := own (.closed _)
          rw [List.append_nil, ← notTold] at ending
          exact ending
      | settled silent own attentive => exact .settled (.inl rfl) own attentive
  | readClosed more after closed =>
      cases continues with
      | listening readable =>
          rw [closed] at readable
          exact absurd readable nofun
      | settled silent own attentive => exact .settled silent own attentive
  | readEnd more after listening nothing =>
      cases continues with
      | listening readable notTold own =>
          refine .settled (.inr ⟨rfl, nothing⟩) ?_ fun _ => rfl
          have ending := own (.atEnd more after)
          rw [List.append_nil] at ending
          exact ending
      | settled silent own attentive =>
          obtain ⟨told, -⟩ := silent.told_of_readable listening
          rw [told] at own
          exact .settled (.inr ⟨rfl, nothing⟩) own fun _ => rfl
  | @readPiece _ more after piece rest listening held nonempty asked =>
      cases continues with
      | listening readable notTold own attentive =>
          refine .listening listening notTold (fun later => ?_) fun reading => ?_
          · rw [List.append_assoc]
            exact own (.given nonempty asked later)
          · rw [List.append_assoc] at reading
            exact attentive reading piece _ rfl nonempty asked
      | settled silent =>
          obtain ⟨-, nothing⟩ := silent.told_of_readable listening
          rw [held, List.append_eq_nil_iff] at nothing
          exact absurd nothing.1 nonempty

structure IsDeafTo (child : Child) (pipe : Pipe) : Prop where
  notListening : child.listensTo pipe = false
  notTold : pipe.told = false

theorem Step.isDeafTo {child next : Child} {pipe left : Pipe} (step : Step child pipe next left)
    (deaf : child.IsDeafTo pipe) : next.IsDeafTo left := by
  -- A child that can act has not ended, so what it no longer listens to is an input it closed.
  cases step with
  | close after => exact ⟨rfl, deaf.notTold⟩
  | readClosed more after closed =>
      refine ⟨?_, deaf.notTold⟩
      unfold listensTo
      rw [closed, Bool.false_and]
  | readEnd more after listening =>
      have notListening := deaf.notListening
      rw [listensTo, listening] at notListening
      exact absurd notListening nofun
  | readPiece more after listening =>
      have notListening := deaf.notListening
      rw [listensTo, listening] at notListening
      exact absurd notListening nofun

end Child

end DocSamples
