import DocSamples.Path.Basic
import DocSamples.System.Host
import Mathlib.Logic.Relation

/-!
Contract: files while regular files are overwritten and removed, and nothing else is done.

Owns:
- what can become of a path meanwhile (`Files.Fades`), and of all of them (`Files.Thins`);
- that such changes add up to one, so that one stands for any number;
- files that look the same in two worlds;
- listings in which each name comes once, and can be part of a path (`Files.ListsNames`).

Does not own: any system on which this is how files change (`Proofs/Machine/Thinning`).

Nothing is said about the content of a file, so an overwritten file is one of which nothing
has changed here.  The cause for which a path leads nowhere may change: a path through a file
is not found once that file is gone.
-/

namespace DocSamples

variable {World : Type}

namespace Files

variable (files : Files World)

/-- What a path leads to, links followed, if to anything. -/
def kind? (path : Text) (world : World) : Option FileKind :=
  (files.stat path world).toOption

def ownKind? (path : Text) (world : World) : Option FileKind :=
  (files.lstat path world).toOption

theorem isFile_iff (path : Text) (world : World) :
    files.isFile path world = true ↔ files.kind? path world = some .file := by
  unfold isFile kind?
  rcases files.stat path world with cause | kind
  · simp [Except.toOption]
  · cases kind <;> simp [Except.toOption]

/-- What can become of a path while regular files are overwritten and removed. -/
inductive Fades (before after : World) (path : Text) : Prop
  | stays (itself : files.ownKind? path after = files.ownKind? path before)
      (leads : files.kind? path after = files.kind? path before)
  | dangles (itself : files.ownKind? path after = files.ownKind? path before)
      (led : files.kind? path before = some .file) (gone : files.kind? path after = none)
  | removed (stood : files.ownKind? path before = some .file)
      (led : files.kind? path before = some .file)
      (vanished : files.ownKind? path after = none) (gone : files.kind? path after = none)

/-- Whether all that has happened to the files of a world is that regular files were
overwritten or removed. -/
structure Thins (before after : World) : Prop where
  fades : ∀ path, files.Fades before after path
  /-- A directory that could not be listed still cannot, and one that could still can. -/
  error_iff : ∀ path, (∃ cause, files.list path after = .error cause) ↔
    ∃ cause, files.list path before = .error cause
  /-- A listing has lost nothing but regular files that are gone. -/
  lists : ∀ path entries left, files.list path before = .ok entries →
    files.list path after = .ok left →
      ∃ kept : DirectoryEntry → Bool, left.Perm (entries.filter kept) ∧
        ∀ entry ∈ entries, kept entry = false →
          entry.kind = .file ∧ files.isFile (Path.join path entry.name) after = false

structure Same (before after : World) : Prop where
  lstat : ∀ path, files.lstat path after = files.lstat path before
  stat : ∀ path, files.stat path after = files.stat path before
  list : ∀ path, files.list path after = files.list path before
  read : ∀ path, files.read path after = files.read path before

/-- Whether directories are listed by the names of their entries: no name comes twice, and
each can be part of a path. -/
def ListsNames (world : World) : Prop :=
  ∀ path entries, files.list path world = .ok entries →
    (entries.map DirectoryEntry.name).Nodup ∧
      ∀ entry ∈ entries, entry.name ≠ [] ∧ '/' ∉ entry.name

variable {files}

/-! ## Files that look the same -/

theorem Same.refl (world : World) : files.Same world world :=
  ⟨fun _ => rfl, fun _ => rfl, fun _ => rfl, fun _ => rfl⟩

theorem Same.trans {first second third : World} (left : files.Same first second)
    (right : files.Same second third) : files.Same first third where
  lstat path := (right.lstat path).trans (left.lstat path)
  stat path := (right.stat path).trans (left.stat path)
  list path := (right.list path).trans (left.list path)
  read path := (right.read path).trans (left.read path)

theorem Same.isFile {before after : World} (same : files.Same before after) (path : Text) :
    files.isFile path after = files.isFile path before := by
  unfold Files.isFile
  rw [same.stat]

theorem Same.thins {before after : World} (same : files.Same before after) :
    files.Thins before after where
  fades path := by
    refine .stays ?_ ?_
    · unfold ownKind?
      rw [same.lstat]
    · unfold kind?
      rw [same.stat]
  error_iff path := by rw [same.list]
  lists path entries left listed listedAfter := by
    rw [same.list, listed] at listedAfter
    obtain rfl : entries = left := Except.ok.inj listedAfter
    refine ⟨fun _ => true, ?_, fun entry _ lost => absurd lost (by simp)⟩
    rw [List.filter_eq_self.2 fun _ _ => rfl]

theorem Thins.refl (world : World) : files.Thins world world :=
  (Same.refl world).thins

/-! ## Changes that add up -/

private theorem Fades.trans {first second third : World} {path : Text}
    (left : files.Fades first second path) (right : files.Fades second third path) :
    files.Fades first third path := by
  cases left with
  | stays itself leads =>
      cases right with
      | stays itselfAgain leadsAgain => exact .stays (itselfAgain.trans itself) (leadsAgain.trans leads)
      | dangles itselfAgain led gone =>
          exact .dangles (itselfAgain.trans itself) (leads.symm.trans led) gone
      | removed stood led vanished gone =>
          exact .removed (itself.symm.trans stood) (leads.symm.trans led) vanished gone
  -- Where nothing is left to lead to, nothing more can be removed.
  | dangles itself led gone =>
      cases right with
      | stays itselfAgain leadsAgain =>
          exact .dangles (itselfAgain.trans itself) led (leadsAgain.trans gone)
      | dangles _ ledAgain _ | removed _ ledAgain _ _ =>
          exact absurd (gone.symm.trans ledAgain) (by simp)
  | removed stood led vanished gone =>
      cases right with
      | stays itselfAgain leadsAgain =>
          exact .removed stood led (itselfAgain.trans vanished) (leadsAgain.trans gone)
      | dangles _ ledAgain _ | removed _ ledAgain _ _ =>
          exact absurd (gone.symm.trans ledAgain) (by simp)

/-- No file appears. -/
theorem Thins.isFile_before {before after : World} (thins : files.Thins before after)
    {path : Text} (there : files.isFile path after = true) : files.isFile path before = true := by
  rw [isFile_iff] at there ⊢
  cases thins.fades path with
  | stays itself leads => exact leads.symm.trans there
  | dangles _ led _ | removed _ led _ _ => exact led

theorem Thins.trans {first second third : World} (left : files.Thins first second)
    (right : files.Thins second third) : files.Thins first third where
  fades path := (left.fades path).trans (right.fades path)
  error_iff path := (right.error_iff path).trans (left.error_iff path)
  lists path entries rest listed listedLast := by
    rcases listedBetween : files.list path second with cause | middle
    · obtain ⟨cause, refused⟩ := (left.error_iff path).1 ⟨cause, listedBetween⟩
      exact absurd (listed.symm.trans refused) (by simp)
    · obtain ⟨kept, perm, lost⟩ := left.lists path entries middle listed listedBetween
      obtain ⟨keptLater, permLater, lostLater⟩ :=
        right.lists path middle rest listedBetween listedLast
      refine ⟨fun entry => keptLater entry && kept entry, ?_, ?_⟩
      · rw [← List.filter_filter]
        exact permLater.trans (perm.filter keptLater)
      · intro entry member gone
        cases keptOne : kept entry with
        | false =>
            obtain ⟨isFile, absent⟩ := lost entry member keptOne
            refine ⟨isFile, ?_⟩
            rw [← Bool.not_eq_true] at absent ⊢
            exact fun there => absent (right.isFile_before there)
        | true =>
            have between : entry ∈ middle :=
              perm.mem_iff.2 (List.mem_filter.2 ⟨member, keptOne⟩)
            exact lostLater entry between (by simpa [keptOne] using gone)

theorem Thins.listsNames {before after : World}
    (thins : files.Thins before after) (named : files.ListsNames before) :
    files.ListsNames after := by
  intro path left listedAfter
  rcases listed : files.list path before with cause | entries
  · obtain ⟨_, refused⟩ := (thins.error_iff path).2 ⟨cause, listed⟩
    exact absurd (listedAfter.symm.trans refused) (by simp)
  · obtain ⟨kept, perm, _⟩ := thins.lists path entries left listed listedAfter
    obtain ⟨distinct, proper⟩ := named path entries listed
    constructor
    · rw [(perm.map DirectoryEntry.name).nodup_iff]
      exact distinct.sublist (List.filter_sublist.map _)
    · intro entry member
      exact proper entry (List.mem_filter.1 (perm.mem_iff.1 member)).1

/-- Any number of such changes is one. -/
theorem thins_of_reflTransGen {before after : World}
    (steps : Relation.ReflTransGen files.Thins before after) : files.Thins before after := by
  induction steps with
  | refl => exact Thins.refl before
  | tail _ step inductionHypothesis => exact inductionHypothesis.trans step

end Files

end DocSamples
