import DocSamples.Document.Source
import DocSamples.Proofs.Tool.Journal

/-!
Contract: sources in worlds with a journal.

Owns:
- streams that leave a journal alone (`Documents.journaled`);
- opening a source with a journal, which gives the same stream as without.
-/

namespace DocSamples

variable {World : Type}

def Documents.journaled : Documents World → Documents (Journaled World)
  | .done => .done
  | .look visit rest =>
    .look (fun state => ((visit state.world).1, ⟨(visit state.world).2, state.journal⟩))
      fun state => (rest state.world).journaled

namespace Host

variable (host : Host World)

private theorem readDocument_journaled (path : Text) (state : Journaled World) :
    host.journaled.readDocument path state = host.readDocument path state.world := rfl

private theorem isFile_journaled (path : Text) (state : Journaled World) :
    host.journaled.isFile path state = host.isFile path state.world := rfl

private theorem visitEntry_journaled (entry : WalkEntry) (state : Journaled World) :
    host.journaled.visitEntry entry state =
      ((host.visitEntry entry state.world).1,
        ⟨(host.visitEntry entry state.world).2, state.journal⟩) := by
  unfold visitEntry
  rw [isFile_journaled, readDocument_journaled]
  split
  · rfl
  · rfl

private theorem walk_journaled (depth : Nat) (entry : WalkEntry) (rest : Documents World) :
    host.journaled.walk depth entry rest.journaled = (host.walk depth entry rest).journaled := by
  induction depth generalizing entry rest with
  | zero =>
      simp only [walk, Documents.cons, Documents.journaled, ← visitEntry_journaled]
  | succ depth inductionHypothesis =>
      simp only [walk, Documents.journaled, ← visitEntry_journaled]
      congr 1
      funext state
      cases entry.isDirectory with
      | false => rfl
      | true =>
          have listed : host.journaled.list entry.path state =
            host.list entry.path state.world := rfl
          rw [listed]
          cases host.list entry.path state.world with
          | error cause => rfl
          | ok entries =>
              simp only [↓reduceIte]
              induction sortEntries entries with
              | nil => rfl
              | cons child children ofChildren =>
                  rw [List.foldr_cons, List.foldr_cons, ofChildren, inductionHypothesis]

private theorem walkRoot_journaled (root : Text) :
    host.journaled.walkRoot root = (host.walkRoot root).journaled := by
  have rootKind : ∀ state : Journaled World, host.journaled.rootIsDirectory root state =
      host.rootIsDirectory root state.world := fun _ => rfl
  simp only [walkRoot, Documents.journaled, rootKind]
  congr 1
  · funext state
    cases host.rootIsDirectory root state.world with
    | error cause => rfl
    | ok isDirectory => rfl
  · funext state
    cases host.rootIsDirectory root state.world with
    | error cause => rfl
    | ok isDirectory => exact host.walk_journaled _ _ .done

private theorem fetch_journaled (reference name : Text) (state : Journaled World) :
    host.journaled.fetch reference name state =
      ((host.fetch reference name state.world).1,
        ⟨(host.fetch reference name state.world).2, state.journal⟩) := by
  unfold fetch
  rw [capture_journaled]
  rcases host.capture (showCommand reference name) state.world with ⟨cause | output, after⟩
  · rfl
  · dsimp only
    split
    · rfl
    · rfl

private theorem fetchAll_journaled (reference : Text) (names : List Text) :
    host.journaled.fetchAll reference names = (host.fetchAll reference names).journaled := by
  induction names with
  | nil => rfl
  | cons name names inductionHypothesis =>
      have unfolded : host.journaled.fetchAll reference (name :: names) =
          .cons
            (fun state =>
              let fetched := host.journaled.fetch reference name state
              (some fetched.1, fetched.2))
            (host.journaled.fetchAll reference names) := rfl
      rw [unfolded, inductionHypothesis]
      simp only [fetch_journaled]
      rfl

private theorem listRevision_journaled (reference : Text) (world : World)
    (journal : List ProcessEvent) :
    host.journaled.listRevision reference ⟨world, journal⟩ =
      ((host.listRevision reference world).1,
        ⟨(host.listRevision reference world).2, journal⟩) := by
  unfold listRevision
  rw [capture_journaled]
  dsimp only
  rcases host.capture (listCommand reference) world with ⟨cause | output, after⟩
  · rfl
  · dsimp only
    split
    · rfl
    · rfl

/-- A source opens in the same way with a journal. -/
theorem openSource_journaled (selector : Selector) (world : World)
    (journal : List ProcessEvent) :
    host.journaled.openSource selector ⟨world, journal⟩ =
      match host.openSource selector world with
      | (.error error, after) => (.error error, ⟨after, journal⟩)
      | (.ok (.unavailable reason), after) => (.ok (.unavailable reason), ⟨after, journal⟩)
      | (.ok (.documents stream), after) => (.ok (.documents stream.journaled), ⟨after, journal⟩) := by
  cases selector with
  | path root =>
      have there : host.journaled.pathExists root ⟨world, journal⟩ =
        host.pathExists root world := rfl
      simp only [openSource, documentsBelow, there, walkRoot_journaled]
      cases host.pathExists root world with
      | false => rfl
      | true => cases isStandardInput root <;> rfl
  | revision reference =>
      simp only [openSource, documentsOfRevision, listRevision_journaled]
      rcases host.listRevision reference world with ⟨reason | names, after⟩
      · rfl
      · simp only [fetchAll_journaled]

end Host

end DocSamples
