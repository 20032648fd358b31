import DocSamples.Check.Documents
import DocSamples.Proofs.Check.Cause
import DocSamples.Proofs.Text.Utf8

/-!
Contract: the documents of a revision, and the commands by which they are had.

Owns:
- worlds that keep a record of the commands whose output was asked for (`Inquiring`);
- reading a listing back, in which a NUL stands after each name;
- the answers that the stream of a revision gives, request by request;
- opening a revision.

Does not own: the processes that a check launches for its samples (`Proofs/Check/Launch`).

Nothing is assumed of git.  What it answers to one command may depend on the commands before
it, and anything may happen to the world between two requests.
-/

namespace DocSamples

variable {World : Type}

/-! ## Worlds with a record of inquiries -/

structure Inquiry where
  command : Command
  answer : Except SystemError Output

structure Inquiring (World : Type) where
  world : World
  inquiries : List Inquiry

/-- Answer a request that is no inquiry. -/
def Inquiring.pass {Answer : Type} (request : World → Answer × World)
    (state : Inquiring World) : Answer × Inquiring World :=
  ((request state.world).1, { state with world := (request state.world).2 })

def Host.inquiring (host : Host World) : Host (Inquiring World) where
  stat path state := host.stat path state.world
  lstat path state := host.lstat path state.world
  list path state := host.list path state.world
  read path state := host.read path state.world
  workingDirectory state := host.workingDirectory state.world
  spawn command := Inquiring.pass (host.spawn command)
  write process bytes := Inquiring.pass (host.write process bytes)
  closeInput process state := { state with world := host.closeInput process state.world }
  kill process state := { state with world := host.kill process state.world }
  wait process := Inquiring.pass (host.wait process)
  run command := Inquiring.pass (host.run command)
  capture command state :=
    ((host.capture command state.world).1,
      ⟨(host.capture command state.world).2,
        state.inquiries ++ [⟨command, (host.capture command state.world).1⟩]⟩)
  print text state := { state with world := host.print text state.world }
  printError text state := { state with world := host.printError text state.world }
  log level text state := { state with world := host.log level text state.world }

private theorem Host.capture_inquiring (host : Host World) (command : Command)
    (state : Inquiring World) :
    host.inquiring.capture command state =
      ((host.capture command state.world).1,
        ⟨(host.capture command state.world).2,
          state.inquiries ++ [⟨command, (host.capture command state.world).1⟩]⟩) := rfl

/-! ## The listing -/

/-- Names as git lists them: their bytes, with a NUL after each. -/
def terminated (names : List Text) : Bytes :=
  names.flatMap fun name => Utf8.encode name ++ [0]

private theorem terminated_eq_encode (names : List Text) :
    terminated names = Utf8.encode (names.flatMap (· ++ ['\x00'])) := by
  induction names with
  | nil => rfl
  | cons name names inductionHypothesis =>
      have nul : Utf8.encode ['\x00'] = [0] := by decide
      rw [terminated, List.flatMap_cons, ← terminated, inductionHypothesis, List.flatMap_cons,
        Utf8.encode_append, Utf8.encode_append, nul]

/-- The names of a listing are read back, in order and as often as they stand there. -/
theorem listedNames_terminated {names : List Text}
    (proper : ∀ name ∈ names, name ≠ [] ∧ '\x00' ∉ name) :
    listedNames (terminated names) = names := by
  have kept : names.filter (!·.isEmpty) = names := by
    rw [List.filter_eq_self]
    intro name member
    simp [(proper name member).1]
  unfold listedNames
  rw [terminated_eq_encode, Utf8.decode_encode,
    splitAt_terminated '\x00' fun name member => (proper name member).2, List.filter_append, kept]
  simp

/-- Why a revision is unavailable, by what came of the command that lists it. -/
def unlistedReason (reference : Text) : Except SystemError Output → Text
  | .error cause => "git is not available: ".toList ++ cause.message
  | .ok output =>
    "cannot list '".toList ++ reference ++ "': ".toList ++ trim (Utf8.decode output.stderr)

/-! ## The requests for documents -/

/-- The item for a name, by what came of the command that gives the file: the document if the
command ended with zero, and otherwise what stood in its way. -/
def shownItem (reference name : Text) : Except SystemError Output → Fetched
  | .error cause => .error (.notFetched reference name cause.message)
  | .ok output =>
    if output.status = .exited 0 then
      .ok ⟨name, Utf8.decode output.stdout⟩
    else
      .error (.notFetched reference name (trim (Utf8.decode output.stderr)))

theorem shownItem_eq_ok_iff (reference name : Text) (shown : Except SystemError Output)
    (document : Document) :
    shownItem reference name shown = .ok document ↔
      ∃ output, shown = .ok output ∧ output.status = .exited 0 ∧
        document = ⟨name, Utf8.decode output.stdout⟩ := by
  cases shown with
  | error cause => simp [shownItem]
  | ok output =>
      by_cases ended : output.status = .exited 0
      · simp [shownItem, ended, eq_comm]
      · simp [shownItem, ended]

namespace Host

variable (host : Host World)

theorem fetch_eq (reference name : Text) (world : World) :
    let shown := host.capture (showCommand reference name) world
    host.fetch reference name world = (shownItem reference name shown.1, shown.2) := by
  unfold fetch shownItem
  rcases host.capture (showCommand reference name) world with ⟨cause | output, after⟩
  · rfl
  · simp only [Status.isSuccess_iff]
    split
    · rfl
    · rfl

/-- The answer to a request for the document of a name, if there is one left: one inquiry and
its item, or the end of the stream. -/
def showNext (reference : Text) (name? : Option Text) (state : Inquiring World) :
    Option Fetched × Inquiring World :=
  match name? with
  | none => (none, state)
  | some name =>
    let shown := host.capture (showCommand reference name) state.world
    (some (shownItem reference name shown.1),
      ⟨shown.2, state.inquiries ++ [⟨showCommand reference name, shown.1⟩]⟩)

/-- The step: the first name is the next to be asked for, and the others are left. -/
theorem next_fetchAll (reference : Text) (names : List Text) (state : Inquiring World) :
    let answer := host.showNext reference names.head? state
    (host.inquiring.fetchAll reference names).next state =
      (answer.1, answer.2, host.inquiring.fetchAll reference names.tail) := by
  cases names with
  | nil => rfl
  | cons name names =>
      have fetched := host.inquiring.fetch_eq reference name state
      rw [capture_inquiring] at fetched
      show (some (host.inquiring.fetch reference name state).1,
        (host.inquiring.fetch reference name state).2, _) = _
      rw [fetched]
      rfl

/-- The whole: each request is answered for the next name, whatever came of those before. -/
theorem askEach_fetchAll (reference : Text) (names : List Text)
    (states : List (Inquiring World)) :
    (host.inquiring.fetchAll reference names).askEach states =
      states.mapIdx fun index => host.showNext reference names[index]? := by
  induction states generalizing names with
  | nil => rfl
  | cons state states inductionHypothesis =>
      rw [Documents.askEach, next_fetchAll, List.mapIdx_cons]
      dsimp only
      rw [inductionHypothesis]
      simp only [List.head?_eq_getElem?, List.getElem?_tail]

/-! ## Opening a revision -/

private theorem commandFails_iff (command : Command) (world : World) :
    host.CommandFails command world ↔
      ∀ output, (host.capture command world).1 = .ok output → output.status ≠ .exited 0 := by
  constructor
  · intro failing output captured
    exact failing output _ (Prod.ext captured rfl)
  · intro failing output after captured
    exact failing output (congrArg Prod.fst captured)

private theorem openSource_revision_snd (reference : Text) (world : World) :
    (host.openSource (.revision reference) world).2 =
      (host.capture (listCommand reference) world).2 := by
  simp only [openSource, documentsOfRevision, listRevision]
  rcases host.capture (listCommand reference) world with ⟨cause | output, after⟩
  · rfl
  · cases passed : output.status.isSuccess with
    | true => simp only [passed, ↓reduceIte]
    | false => simp only [passed, Bool.false_eq_true, ↓reduceIte]

private theorem openSource_of_fails {reference : Text} {world : World}
    (fails : host.CommandFails (listCommand reference) world) :
    let listing := host.capture (listCommand reference) world
    host.openSource (.revision reference) world =
      (.ok (.unavailable (unlistedReason reference listing.1)), listing.2) := by
  simp only [openSource, documentsOfRevision, listRevision]
  rcases captured : host.capture (listCommand reference) world with ⟨cause | output, after⟩
  · rfl
  · have failed := (commandFails_iff_of_output captured).1 fails
    simp only [failed, Bool.false_eq_true, ↓reduceIte]
    rfl

private theorem openSource_of_lists {reference : Text} {world : World} {output : Output}
    (lists : (host.capture (listCommand reference) world).1 = .ok output)
    (zero : output.status = .exited 0) :
    host.openSource (.revision reference) world =
      (.ok (.documents
          (host.fetchAll reference ((listedNames output.stdout).filter isDocumentName))),
        (host.capture (listCommand reference) world).2) := by
  simp only [openSource, documentsOfRevision, listRevision]
  rcases captured : host.capture (listCommand reference) world with ⟨cause | found, after⟩
  · rw [captured] at lists
    exact absurd lists (by simp)
  · rw [captured] at lists
    obtain rfl : found = output := Except.ok.inj lists
    simp only [if_pos ((Status.isSuccess_iff _).2 zero)]

/-- **The documents of a revision.**  Opening a revision asks git once, for the listing.  If
the command is not launched, or ends in another way than with zero, the revision is
unavailable, and a check asks nothing more.  Otherwise it is a stream.  Whenever the listing
holds names that are not empty and free of NULs, each with a NUL after it, the requests to
the stream are answered for those of them that end as documents do, in order and as often as
they are listed, in whatever worlds the requests are made: each by one inquiry for that name,
with the document if the command ended with zero and the loss of it otherwise.  Further
requests are answered without an inquiry, by the end of the stream. -/
theorem openSource_revision (reference : Text) (world : World) (inquiries : List Inquiry) :
    let listing := host.capture (listCommand reference) world
    let listed : Inquiring World :=
      ⟨listing.2, inquiries ++ [⟨listCommand reference, listing.1⟩]⟩
    let opened := host.inquiring.openSource (.revision reference) ⟨world, inquiries⟩
    opened.2 = listed ∧
    (host.CommandFails (listCommand reference) world →
      opened.1 = .ok (.unavailable (unlistedReason reference listing.1)) ∧
        ∀ config, (host.inquiring.checkSource config (.revision reference)
          ⟨world, inquiries⟩).2.inquiries = listed.inquiries) ∧
    (∀ output, listing.1 = .ok output → output.status = .exited 0 →
      ∃ stream, opened.1 = .ok (.documents stream) ∧
        ∀ names, (∀ name ∈ names, name ≠ [] ∧ '\x00' ∉ name) →
          output.stdout = terminated names → ∀ states, stream.askEach states =
            states.mapIdx fun index =>
              host.showNext reference (names.filter isDocumentName)[index]?) ∧
    ∀ name shown document, shownItem reference name shown = .ok document ↔
      ∃ output, shown = .ok output ∧ output.status = .exited 0 ∧
        document = ⟨name, Utf8.decode output.stdout⟩ := by
  intro listing listed opened
  have unavailable : host.CommandFails (listCommand reference) world →
      opened = (.ok (.unavailable (unlistedReason reference listing.1)), listed) := by
    intro fails
    rw [commandFails_iff] at fails
    exact host.inquiring.openSource_of_fails ((commandFails_iff _ _ _).2 fails)
  have stream : ∀ output, listing.1 = .ok output → output.status = .exited 0 →
      opened = (.ok (.documents (host.inquiring.fetchAll reference
        ((listedNames output.stdout).filter isDocumentName))), listed) :=
    fun output lists zero => host.inquiring.openSource_of_lists lists zero
  refine ⟨host.inquiring.openSource_revision_snd reference _, ?_, ?_,
    fun name => shownItem_eq_ok_iff reference name⟩
  · intro fails
    refine ⟨congrArg Prod.fst (unavailable fails), fun config => ?_⟩
    have openedAs : host.inquiring.openSource (.revision reference) ⟨world, inquiries⟩ =
        (.ok (.unavailable (unlistedReason reference listing.1)), listed) := unavailable fails
    unfold checkSource checkWith
    rw [openedAs]
    rfl
  · intro output lists zero
    refine ⟨_, congrArg Prod.fst (stream output lists zero), fun names proper shape states => ?_⟩
    rw [shape, listedNames_terminated proper]
    exact host.askEach_fetchAll reference _ states

end Host

end DocSamples
