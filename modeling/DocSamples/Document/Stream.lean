import DocSamples.Document.Basic

/-!
Contract: documents that are looked for only when they are asked for.

Owns:
- streams, as finite sequences of looks at a world that may change between them;
- asking a stream for its next document, again and again, or for all of them;
- streams over fixed lists of documents.

Each look sees the world of the moment in which it is made.  It may give a
document or the reason for its loss, or nothing, and what is looked at afterwards
may depend on what it saw.
-/

namespace DocSamples

/-- A lazy stream of documents over a type of worlds. -/
inductive Documents (World : Type) where
  | done
  /-- Look once: `visit` says what the look gives and which world it leaves,
  `rest` what remains to be looked at.  Both see the world in which the look is
  made. -/
  | look (visit : World → Option Fetched × World) (rest : World → Documents World)

namespace Documents

variable {World : Type}

/-- Look until something is given; the answer also carries the world and the
stream that remain. -/
def next : Documents World → World → Option Fetched × World × Documents World
  | .done, world => (none, world, .done)
  | .look visit rest, world =>
    match visit world with
    | (some fetched, after) => (some fetched, after, rest world)
    | (none, after) => (rest world).next after

/-- Everything that a stream gives when it is read to its end at once. -/
def readAll : Documents World → World → List Fetched × World
  | .done, world => ([], world)
  | .look visit rest, world =>
    match visit world with
    | (some fetched, after) =>
      let later := (rest world).readAll after
      (fetched :: later.1, later.2)
    | (none, after) => (rest world).readAll after

/-- Ask a stream once in each of the given worlds, whatever has become of the one before:
the answers, each with the world that it leaves. -/
def askEach : Documents World → List World → List (Option Fetched × World)
  | _, [] => []
  | stream, world :: worlds =>
    let answer := stream.next world
    (answer.1, answer.2.1) :: answer.2.2.askEach worlds

/-- A stream that makes one look and then goes on as another. -/
def cons (visit : World → Option Fetched × World) (rest : Documents World) : Documents World :=
  .look visit fun _ => rest

/-- The stream that gives the members of a list and leaves the world alone. -/
def ofList (items : List Fetched) : Documents World :=
  items.foldr (fun item rest => cons (fun world => (some item, world)) rest) .done

@[simp] theorem ofList_nil : (ofList [] : Documents World) = .done := rfl

@[simp] theorem ofList_cons (item : Fetched) (items : List Fetched) :
    (ofList (item :: items) : Documents World) =
      .look (fun world => (some item, world)) fun _ => ofList items := rfl

/-- Reading a fixed list gives the list. -/
theorem readAll_ofList (items : List Fetched) (world : World) :
    (ofList items).readAll world = (items, world) := by
  induction items with
  | nil => rfl
  | cons item items inductionHypothesis => simp [readAll, inductionHypothesis]

end Documents

end DocSamples
