import DocSamples.Machine.Basic
import DocSamples.Proofs.Path.Extension
import DocSamples.Proofs.Program.BuildRun

/-!
Contract: where the program built from a source file lies.

Owns:
- paths made absolute by a host, and that the artifact is one of them;
- what the artifact has of its source: all but the extension and what trails;
- the form of its path, by which it is launched.

Does not own: paths by themselves (`Proofs/Path`), and when the artifact is launched
(`Proofs/Program/BuildRun`).
-/

namespace DocSamples

variable {World : Type}

namespace Host

variable (host : Host World)

/-! ## Paths made absolute -/

/-- The directory that a path starts from.  One that starts at the root does without it. -/
def base (path : Text) (world : World) : Except SystemError Text :=
  if Path.isAbsolute path then .ok [] else host.workingDirectory world

def absolute (path : Text) (world : World) : Except SystemError Text :=
  if path.isEmpty then .error Path.emptyPathError
  else (host.base path world).map fun directory => Path.absolute directory path

theorem absolute_of_ne_nil {path : Text} (nonempty : path ≠ []) (world : World) :
    host.absolute path world =
      (host.base path world).map fun directory => Path.absolute directory path := by
  rw [absolute, List.isEmpty_eq_false_iff.2 nonempty, if_neg nofun]

theorem absolute_of_directory {path directory : Text} {world : World} (nonempty : path ≠ [])
    (here : host.workingDirectory world = .ok directory) :
    host.absolute path world = .ok (Path.absolute directory path) := by
  rw [host.absolute_of_ne_nil nonempty, base]
  split
  next rooted => exact congrArg _ (Path.absolute_of_isAbsolute rooted [] directory)
  next => rw [here]; rfl

theorem absolute_of_isAbsolute {path : Text} (rooted : Path.isAbsolute path = true)
    (world : World) : host.absolute path world = .ok (Path.absolute [] path) := by
  have nonempty : path ≠ [] := by
    rintro rfl
    exact absurd rooted (by decide)
  rw [host.absolute_of_ne_nil nonempty, base, if_pos rooted]
  rfl

/-- The artifact is the source without its extension, made absolute. -/
theorem artifact_eq (source : Text) (world : World) :
    host.artifact source world = host.absolute (Path.withoutExtension source) world := by
  have rooted := Path.isAbsolute_withoutExtension source
  by_cases empty : source = []
  · subst empty
    unfold artifact
    split
    · rfl
    · rfl
  · -- Whether the working directory is there or not, only a relative source depends on it.
    have nonempty : Path.withoutExtension source ≠ [] := fun nothing =>
      empty ((Path.withoutExtension_eq_nil_iff source).1 nothing)
    have resolves : ∀ directory, Path.artifact directory source =
        .ok (Path.absolute directory (Path.withoutExtension source)) := by
      intro directory
      rw [Path.artifact, List.isEmpty_eq_false_iff.2 nonempty, if_neg nofun]
    unfold artifact
    split
    next directory here =>
      rw [resolves, host.absolute_of_directory nonempty here]
    next cause gone =>
      rw [List.isEmpty_eq_false_iff.2 empty, Bool.false_or, ← rooted]
      split
      next absolute =>
        rw [resolves, host.absolute_of_isAbsolute absolute]
      next relative =>
        rw [host.absolute_of_ne_nil nonempty, base, if_neg relative, gone]
        rfl

/-! ## What the artifact has of its source -/

/-- The directory that a last component lies in, with a slash at its end. -/
def place (front : Text) (world : World) : Except SystemError Text :=
  (host.base front world).map fun directory => Path.absoluteFront directory front

private theorem endsInSlash_of_place {front above : Text} {world : World}
    (found : host.place front world = .ok above) : Path.endsInSlash above = true := by
  unfold place at found
  cases started : host.base front world with
  | error cause =>
      rw [started] at found
      exact absurd found nofun
  | ok directory =>
      rw [started] at found
      obtain rfl := Except.ok.inj found
      exact Path.endsInSlash_absoluteFront directory front

theorem absolute_of_endsIn {path front name trailing : Text}
    (ends : Path.EndsIn path front name trailing) (world : World) :
    host.absolute path world =
      (host.place front world).map
        (· ++ name ++ if Path.endsInSlash path then ['/'] else []) := by
  have nonempty : path ≠ [] := by
    obtain ⟨named, -⟩ := (Path.isComponent_iff name).1 ends.proper
    rw [ends.spelled]
    simp [named]
  rw [host.absolute_of_ne_nil nonempty, place, base, ends.isAbsolute_eq, ← base]
  cases host.base front world with
  | error cause => rfl
  | ok directory => exact congrArg _ (ends.absolute_eq directory)

/-- Cut behind its last component or in it, a path made absolute lies where it lay. -/
theorem absolute_append {path front name trailing short : Text}
    (ends : Path.EndsIn path front name trailing) (proper : Path.isComponent short = true)
    (slashless : '/' ∉ short) (world : World) :
    host.absolute (front ++ short) world = (host.place front world).map (· ++ short) := by
  obtain ⟨nonempty, -⟩ := (Path.isComponent_iff short).1 proper
  have open_ : Path.endsInSlash (front ++ short) = false := by
    rw [Path.endsInSlash_append front nonempty, Path.endsInSlash_of_notMem slashless]
  rw [host.absolute_of_endsIn (ends.of_front proper slashless), open_, if_neg nofun]
  simp only [List.append_nil]

/-- **What the artifact has of its source.**  A source without a last component, or that goes up
with it, is the artifact as soon as it is absolute.  Any other is cut: behind its last component
if that has no extension, and else before the extension, so that the artifact lies where the
source lies, under the name without the extension, and is not the source. -/
theorem artifact_cuts (source : Text) (world : World) :
    (Path.components source = [] → host.artifact source world = host.absolute source world) ∧
    (Path.components source ≠ [] →
      ∃ front name trailing, Path.EndsIn source front name trailing) ∧
    ∀ front name trailing, Path.EndsIn source front name trailing →
      (name = Path.up → host.artifact source world = host.absolute source world) ∧
      ∃ place : Except SystemError Text,
        (∀ above, place = .ok above → Path.endsInSlash above = true) ∧
        host.absolute source world =
          place.map (· ++ name ++ if Path.endsInSlash source then ['/'] else []) ∧
        ('.' ∉ name.tail →
          host.artifact source world = host.absolute (front ++ name) world ∧
          host.artifact source world = place.map (· ++ name)) ∧
        ∀ stem extension, name = stem ++ '.' :: extension → '.' ∉ extension →
          stem ≠ [] → stem ≠ Path.here →
          host.artifact source world = host.absolute (front ++ stem) world ∧
          host.artifact source world = place.map (· ++ stem) ∧
          ∀ built, host.artifact source world = .ok built →
            host.absolute source world ≠ .ok built := by
  refine ⟨fun nothing => ?_, fun some => ?_, fun front name trailing ends => ⟨fun isUp => ?_,
    host.place front world, fun above => host.endsInSlash_of_place,
    host.absolute_of_endsIn ends world, fun dotless => ?_, ?_⟩⟩
  · rw [artifact_eq, Path.withoutExtension_of_components_eq_nil nothing]
  · rcases Path.endsIn_or_components_eq_nil source with found | ⟨nothing, -⟩
    · exact found
    · exact absurd nothing some
  · subst isUp
    rw [artifact_eq, ends.withoutExtension_up]
  · have cut : host.artifact source world = host.absolute (front ++ name) world := by
      rw [artifact_eq, ends.withoutExtension_dotless dotless]
    exact ⟨cut, cut.trans (host.absolute_append ends ends.proper ends.slashless world)⟩
  · rintro stem extension rfl dotless nonempty notHere
    have proper := (Path.isComponent_iff stem).2 ⟨nonempty, notHere⟩
    have slashless : '/' ∉ stem := fun member => ends.slashless (List.mem_append_left _ member)
    have cut : host.artifact source world = host.absolute (front ++ stem) world := by
      rw [artifact_eq, ends.withoutExtension_stem dotless nonempty notHere]
    have beside := cut.trans (host.absolute_append ends proper slashless world)
    refine ⟨cut, beside, fun built found same => ?_⟩
    rw [beside] at found
    rw [host.absolute_of_endsIn ends] at same
    cases placed : host.place front world with
    | error cause =>
        rw [placed] at found
        exact absurd found nofun
    | ok above =>
        rw [placed] at found same
        have lengths := congrArg List.length (Except.ok.inj (same.trans found.symm))
        simp only [List.length_append, List.length_cons] at lengths
        omega

/-- Dots in the directory and at the start of the name stay, and the slash at the end goes. -/
theorem artifact_cuts_hidden :
    let host := Machine.host
    let machine := Machine.fresh "/work".toList "/work/path".toList
    let source := "dir.d/.a.b.neon/".toList
    Path.EndsIn source "dir.d/".toList ".a.b.neon".toList ['/'] ∧
      host.artifact source machine = host.absolute "dir.d/.a.b".toList machine ∧
      host.absolute "dir.d/.a.b".toList machine = .ok "/work/dir.d/.a.b".toList ∧
      host.absolute source machine ≠ .ok "/work/dir.d/.a.b".toList := by
  intro host machine source
  have ends : Path.EndsIn source "dir.d/".toList ".a.b.neon".toList ['/'] :=
    ⟨rfl, .inr rfl, rfl, by decide, .slash .nil⟩
  obtain ⟨-, -, cuts⟩ := host.artifact_cuts source machine
  obtain ⟨-, place, -, -, -, strips⟩ := cuts _ _ _ ends
  obtain ⟨cut, -, differs⟩ :=
    strips ".a.b".toList "neon".toList rfl (by decide) (by decide) (by decide)
  have whole : host.absolute "dir.d/.a.b".toList machine = .ok "/work/dir.d/.a.b".toList := by
    decide
  exact ⟨ends, cut, whole, differs _ (cut.trans whole)⟩

/-- A name without an extension loses the slash behind it all the same. -/
theorem artifact_slash :
    let host := Machine.host
    let machine := Machine.fresh "/work".toList "/work/path".toList
    let source := "a/".toList
    Path.EndsIn source [] "a".toList ['/'] ∧ '.' ∉ "a".toList.tail ∧
      host.artifact source machine = .ok "/work/a".toList ∧
      host.absolute source machine = .ok "/work/a/".toList ∧
      host.artifact source machine ≠ host.absolute source machine := by
  intro host machine source
  have built : host.artifact source machine = .ok "/work/a".toList := by decide
  have whole : host.absolute source machine = .ok "/work/a/".toList := by decide
  refine ⟨⟨rfl, .inl rfl, rfl, by decide, .slash .nil⟩, by decide, built, whole, ?_⟩
  rw [built, whole]
  decide

/-! ## The path of the artifact -/

/-- **The path of the artifact**, when the working directory is in normal form.  Every source but
the empty one has an artifact.  Its path is that of the source without its extension, made
absolute and in normal form, and is the same from wherever it is made absolute again.  So it is
launched by a path that is not looked for among programs, also if the source is only a name. -/
theorem artifact_isAbsoluteForm {directory : Text} {world : World}
    (here : host.workingDirectory world = .ok directory) (normal : Path.IsNormal directory)
    (source : Text) :
    ((∃ cause, host.artifact source world = .error cause) ↔ source = []) ∧
    (source ≠ [] → ∃ built, host.artifact source world = .ok built ∧
      Path.IsAbsoluteForm directory (Path.withoutExtension source) built ∧
      (∀ (OtherWorld : Type) (other : Host OtherWorld) (elsewhere : OtherWorld),
        other.absolute built elsewhere = .ok built) ∧
      ∀ arguments,
        let run := host.journaled.runArtifact source arguments ⟨world, []⟩
        run.2.journal.filterMap ProcessEvent.launch? = [⟨built, arguments⟩] ∧
          ∀ session : Session, session.programPath built = built) := by
  have found : source ≠ [] → ∃ built, host.artifact source world = .ok built ∧
      Path.IsAbsoluteForm directory (Path.withoutExtension source) built := by
    intro some
    have nonempty : Path.withoutExtension source ≠ [] := fun nothing =>
      some ((Path.withoutExtension_eq_nil_iff source).1 nothing)
    refine ⟨Path.absolute directory (Path.withoutExtension source), ?_,
      Path.isAbsoluteForm_absolute normal _⟩
    rw [artifact_eq, host.absolute_of_directory nonempty here]
  refine ⟨⟨fun ⟨cause, failed⟩ => ?_, fun empty => ?_⟩, fun some => ?_⟩
  · by_contra some
    obtain ⟨built, resolved, -⟩ := found some
    exact absurd (failed.symm.trans resolved) nofun
  · subst empty
    exact ⟨Path.emptyPathError, host.artifact_eq [] world⟩
  · obtain ⟨built, resolved, form⟩ := found some
    refine ⟨built, resolved, form, fun OtherWorld other elsewhere => ?_, fun arguments => ⟨?_, ?_⟩⟩
    · rw [other.absolute_of_isAbsolute form.isAbsolute, form.stays]
    · obtain ⟨ran, after, -, journaled⟩ := host.runArtifact_eq resolved arguments
      rw [journaled]
      rfl
    · intro session
      have slash : built.contains '/' = true := by
        have rooted := form.isAbsolute
        unfold Path.isAbsolute at rooted
        rw [beq_iff_eq] at rooted
        exact List.contains_iff_mem.2 (List.mem_of_head? rooted)
      rw [Session.programPath, slash, if_pos rfl]

/-- A source that is only a name is built to a program that is launched by its path. -/
theorem artifact_isAbsoluteForm_name :
    let host := Machine.host
    let machine := Machine.fresh "/work".toList "/work/path".toList
    let source := "hello.neon".toList
    host.workingDirectory machine = .ok "/work".toList ∧ Path.IsNormal "/work".toList ∧
      source ≠ [] ∧
      ∃ built, host.artifact source machine = .ok built ∧
        Path.IsAbsoluteForm "/work".toList (Path.withoutExtension source) built ∧
        ((host.journaled.runArtifact source [] ⟨machine, []⟩).2.journal.filterMap
          ProcessEvent.launch?) = [⟨built, []⟩] := by
  intro host machine source
  have here : host.workingDirectory machine = .ok "/work".toList := by decide
  have normal : Path.IsNormal "/work".toList := ⟨by decide, by decide, by decide, by decide⟩
  have some : source ≠ [] := by decide
  obtain ⟨-, gives⟩ := host.artifact_isAbsoluteForm here normal source
  obtain ⟨built, resolved, form, -, launches⟩ := gives some
  exact ⟨here, normal, some, built, resolved, form, (launches []).1⟩

end Host

end DocSamples
