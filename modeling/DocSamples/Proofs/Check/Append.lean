import DocSamples.Proofs.Check.Record

/-!
Contract: the check of documents that come after others.

Owns:
- streams one behind the other, and the sum of two counts;
- the check without a log, which goes on from earlier counts, and as another stream;
- views of worlds under which one console and runner look like another (`ViewedAs`);
- the check of two lists, with all that it is seen to do.

The last thing that a check does is to log its counts, so the logs of the two parts do not
add up to the log of the whole.  Here the log is kept apart from what is printed and called,
and a view that forgets it leads to the check without a log.
-/

namespace DocSamples

/-! ## Streams and counts -/

/-- Look as one stream does, and then go on as another. -/
def Documents.append {World : Type} : Documents World → Documents World → Documents World
  | .done, back => back
  | .look visit rest, back => .look visit fun world => (rest world).append back

private theorem Documents.ofList_append {World : Type} (front back : List Fetched) :
    (ofList (front ++ back) : Documents World) = (ofList front).append (ofList back) := by
  induction front with
  | nil => rfl
  | cons item front inductionHypothesis =>
      rw [List.cons_append, ofList_cons, inductionHypothesis]
      rfl

namespace Summary

def add (summary more : Summary) : Summary where
  files := summary.files + more.files
  samples := summary.samples + more.samples
  compileOnly := summary.compileOnly + more.compileOnly

private theorem add_empty (summary : Summary) : summary.add {} = summary := rfl

private theorem add_countSample (summary more : Summary) (mode : Mode) :
    (summary.add more).countSample mode = summary.add (more.countSample mode) := by
  simp only [add, countSample, mk.injEq, true_and]
  constructor
  · omega
  · omega

private theorem add_countFile (summary more : Summary) :
    (summary.add more).countFile = summary.add more.countFile := by
  simp only [add, countFile, mk.injEq, and_true]
  omega

end Summary

/-! ## Going on -/

def Console.unlogged {World : Type} (console : Console World) : Console World :=
  { console with log := fun _ _ world => world }

namespace Console

variable {World : Type} (console : Console World) (runner : Runner World)

theorem unlogged_log (level : LogLevel) (text : Text) (world : World) :
    console.unlogged.log level text world = world := rfl

private theorem checkSamples_add (file : Text) (samples : List Sample) (summary more : Summary)
    (world : World) :
    let checked := console.checkSamples runner file samples more world
    console.checkSamples runner file samples (summary.add more) world =
      (checked.1, summary.add checked.2.1, checked.2.2) := by
  induction samples generalizing more world with
  | nil => rfl
  | cons sample samples inductionHypothesis =>
      rcases answered : runner (classify sample.code) sample.code
        (console.logSample file sample world) with ⟨error | status, after⟩
      · simp only [checkSamples, answered]
      · cases passed : status.isSuccess with
        | false =>
            simp only [checkSamples, answered, passed, Bool.false_eq_true, ↓reduceIte,
              Summary.add_countSample]
        | true =>
            simp only [checkSamples, answered, passed, ↓reduceIte, Summary.add_countSample]
            exact inductionHypothesis _ _

/-- Earlier counts are added to those of a check and change nothing else. -/
theorem checkFrom_add (documents : Documents World) (summary more : Summary) (world : World) :
    let checked := console.unlogged.checkFrom runner documents more world
    console.unlogged.checkFrom runner documents (summary.add more) world =
      (checked.1.map summary.add, checked.2) := by
  induction documents generalizing more world with
  | done => simp only [checkFrom, unlogged_log, Except.map]
  | look visit rest inductionHypothesis =>
      rcases looked : visit world with ⟨_ | error | document, after⟩
      · simp only [checkFrom, looked]
        exact inductionHypothesis _ _ _
      · simp only [checkFrom, looked, Except.map]
      · have added := console.unlogged.checkSamples_add runner document.name
          (extract document.text) summary more (console.unlogged.announce document after)
        rcases checked : console.unlogged.checkSamples runner document.name
          (extract document.text) more (console.unlogged.announce document after)
          with ⟨error | _, counted, ended⟩
        · rw [checked] at added
          simp only [checkFrom, checkDocument, looked, added, checked, Except.map]
        · rw [checked] at added
          simp only [checkFrom, checkDocument, looked, added, checked, Summary.add_countFile]
          exact inductionHypothesis _ _ _

/-- Where a stream ends without an error, the check goes on as that of the stream behind
it. -/
theorem checkFrom_append (front back : Documents World) (summary : Summary) (world : World) :
    console.unlogged.checkFrom runner (front.append back) summary world =
      match console.unlogged.checkFrom runner front summary world with
      | (.error error, after) => (.error error, after)
      | (.ok counted, after) => console.unlogged.checkFrom runner back counted after := by
  induction front generalizing summary world with
  | done => simp only [Documents.append, checkFrom, unlogged_log]
  | look visit rest inductionHypothesis =>
      rcases looked : visit world with ⟨_ | error | document, after⟩
      · simp only [Documents.append, checkFrom, looked]
        exact inductionHypothesis _ _ _
      · simp only [Documents.append, checkFrom, looked]
      · rcases checked : console.unlogged.checkDocument runner document summary
          (console.unlogged.announce document after) with ⟨error | _, counted, ended⟩
        · simp only [Documents.append, checkFrom, looked, checked]
        · simp only [Documents.append, checkFrom, looked, checked]
          exact inductionHypothesis _ _ _

end Console

/-! ## Views -/

section Views

variable {World Image : Type}

/-- Seen through a view of its worlds, a console with a runner looks like another. -/
structure ViewedAs (view : World → Image) (console : Console World) (runner : Runner World)
    (image : Console Image) (imageRunner : Runner Image) : Prop where
  print : ∀ text world, image.print text (view world) = view (console.print text world)
  log : ∀ level text world,
    image.log level text (view world) = view (console.log level text world)
  call : ∀ mode code world, imageRunner mode code (view world) =
    ((runner mode code world).1, view (runner mode code world).2)

variable {view : World → Image} {console : Console World} {runner : Runner World}
variable {image : Console Image} {imageRunner : Runner Image}

private theorem ViewedAs.checkSamples (viewed : ViewedAs view console runner image imageRunner)
    (file : Text) (samples : List Sample) (summary : Summary) (world : World) :
    let checked := console.checkSamples runner file samples summary world
    image.checkSamples imageRunner file samples summary (view world) =
      (checked.1, checked.2.1, view checked.2.2) := by
  induction samples generalizing summary world with
  | nil => rfl
  | cons sample samples inductionHypothesis =>
      have logged : image.logSample file sample (view world) =
          view (console.logSample file sample world) := viewed.log _ _ _
      have called := viewed.call (classify sample.code) sample.code
        (console.logSample file sample world)
      rcases answered : runner (classify sample.code) sample.code
        (console.logSample file sample world) with ⟨error | status, after⟩
      · rw [answered] at called
        simp only [Console.checkSamples, logged, called, answered]
      · rw [answered] at called
        cases passed : status.isSuccess with
        | false =>
            simp only [Console.checkSamples, logged, called, answered, passed,
              Bool.false_eq_true, ↓reduceIte]
        | true =>
            simp only [Console.checkSamples, logged, called, answered, passed, ↓reduceIte]
            exact inductionHypothesis _ _

theorem ViewedAs.checkFrom (viewed : ViewedAs view console runner image imageRunner)
    (items : List Fetched) (summary : Summary) (world : World) :
    let checked := console.checkFrom runner (.ofList items) summary world
    image.checkFrom imageRunner (.ofList items) summary (view world) =
      (checked.1, view checked.2) := by
  induction items generalizing summary world with
  | nil => exact congrArg (Prod.mk _) (viewed.log _ _ _)
  | cons item items inductionHypothesis =>
      cases item with
      | error error => rfl
      | ok document =>
          have announced : image.announce document (view world) =
              view (console.announce document world) := viewed.print _ _
          have samples := viewed.checkSamples document.name (extract document.text) summary
            (console.announce document world)
          rcases checked : console.checkSamples runner document.name (extract document.text)
            summary (console.announce document world) with ⟨error | _, counted, ended⟩
          · rw [checked] at samples
            simp only [Documents.ofList_cons, Console.checkFrom, Console.checkDocument,
              announced, samples, checked]
          · rw [checked] at samples
            simp only [Documents.ofList_cons, Console.checkFrom, Console.checkDocument,
              announced, samples, checked]
            exact inductionHypothesis _ _

/-- Nothing but the record tells a recording world apart. -/
theorem viewedAs_world (console : Console World) (runner : Runner World) :
    ViewedAs Recorded.world console.recorded runner.recorded console runner :=
  ⟨fun _ _ => rfl, fun _ _ _ => rfl, fun _ _ _ => rfl⟩

/-- What is recorded comes behind what was recorded before, and does not depend on it. -/
theorem viewedAs_behind (earlier : List CheckEvent) (console : Console World)
    (runner : Runner World) :
    ViewedAs (fun state => ⟨state.world, earlier ++ state.events⟩)
      console.recorded.unlogged runner.recorded console.recorded.unlogged runner.recorded where
  print text state := by
    show Recorded.mk _ (earlier ++ state.events ++ _) = _
    rw [List.append_assoc]
    rfl
  log _ _ _ := rfl
  call mode code state := by
    show (_, Recorded.mk _ (earlier ++ state.events ++ _)) = _
    rw [List.append_assoc]
    rfl

end Views

/-! ## A log of its own -/

section Log

variable {World Log : Type}

/-- A console whose log goes to a place of its own. -/
def Console.loggingTo (console : Console World) (log : LogLevel → Text → Log → Log) :
    Console (World × Log) where
  print text state := (console.print text state.1, state.2)
  printError text state := (console.printError text state.1, state.2)
  log level text state := (state.1, log level text state.2)

/-- A runner that does not touch the log. -/
def Runner.besideLog (runner : Runner World) : Runner (World × Log) :=
  fun mode code state =>
    let answered := runner mode code state.1
    (answered.1, (answered.2, state.2))

def Recorded.withoutLog (state : Recorded (World × Log)) : Recorded World :=
  ⟨state.world.1, state.events⟩

private theorem viewedAs_withoutLog (log : LogLevel → Text → Log → Log) (console : Console World)
    (runner : Runner World) :
    ViewedAs Recorded.withoutLog (console.loggingTo log).recorded runner.besideLog.recorded
      console.recorded.unlogged runner.recorded :=
  ⟨fun _ _ => rfl, fun _ _ _ => rfl, fun _ _ _ => rfl⟩

/-- What the check of a list of documents comes to, its log left out: the answer, the world
and all that is printed and called. -/
def Console.courseOf (console : Console World) (log : LogLevel → Text → Log → Log)
    (runner : Runner World) (items : List Fetched) (world : World) (journal : Log) :
    Except CheckError Summary × Recorded World :=
  let checked := (console.loggingTo log).recorded.check runner.besideLog.recorded
    (.ofList items) ⟨(world, journal), []⟩
  (checked.1, checked.2.withoutLog)

namespace Console

variable (console : Console World) (log : LogLevel → Text → Log → Log) (runner : Runner World)

private theorem courseOf_eq (items : List Fetched) (world : World) (journal : Log) :
    console.courseOf log runner items world journal =
      console.recorded.unlogged.checkFrom runner.recorded (.ofList items) {} ⟨world, []⟩ :=
  ((viewedAs_withoutLog log console runner).checkFrom items {} ⟨(world, journal), []⟩).symm

/-- **Checks of lists of documents compose.**  The record in a course changes neither the
answer nor the world.  The check of two lists, one behind the other, fails as that of the first
list does, with the same done and nothing more.  Where the first list passes, the course of the
second list, from the world that the first has left, comes behind that of the first: a failure
is that of the second list as it stands, and else the counts of the two are added. -/
theorem check_append (front back : List Fetched) (world : World) (journal other : Log) :
    (∀ items,
      let course := console.courseOf log runner items world journal
      let checked := (console.loggingTo log).check runner.besideLog (.ofList items)
        (world, journal)
      (course.1, course.2.world) = (checked.1, checked.2.1)) ∧
    console.courseOf log runner (front ++ back) world journal =
      match console.courseOf log runner front world journal with
      | (.error error, left) => (.error error, left)
      | (.ok summary, left) =>
        let course := console.courseOf log runner back left.world other
        (course.1.map summary.add, ⟨course.2.world, left.events ++ course.2.events⟩) := by
  constructor
  · intro items course checked
    have plain := (viewedAs_world (console.loggingTo log) runner.besideLog).checkFrom items {}
      ⟨(world, journal), []⟩
    have checkedEq : checked = _ := plain
    rw [checkedEq]
    rfl
  · rw [courseOf_eq, courseOf_eq, Documents.ofList_append, checkFrom_append]
    rcases console.recorded.unlogged.checkFrom runner.recorded (.ofList front) {} ⟨world, []⟩
      with ⟨error | summary, left⟩
    · rfl
    · have added := console.recorded.checkFrom_add runner.recorded (.ofList back) summary {} left
      have behind := (viewedAs_behind left.events console runner).checkFrom back {}
        ⟨left.world, []⟩
      rw [Summary.add_empty] at added
      rw [List.append_nil] at behind
      dsimp only at added behind ⊢
      rw [added, behind, courseOf_eq]

end Console

end Log

end DocSamples
