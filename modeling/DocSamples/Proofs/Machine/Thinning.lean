import DocSamples.Machine.Basic
import DocSamples.Proofs.Machine.FileStep
import DocSamples.Proofs.Machine.Following
import DocSamples.Proofs.System.Thinning

/-!
Contract: the files of a machine of which regular files are overwritten and removed.

Owns:
- following a path in a tree and in one that differs by a single regular file;
- that a machine whose regular files are overwritten and removed has fewer files at most.

The paths that lead to a file are not known beforehand: links may lead to it from anywhere.
So a path is followed in both trees at once.
-/

namespace DocSamples.FileTree

/-! ## Following a path in two trees -/

/-- How the places compare that a path leads to in two trees that differ at a place. -/
inductive Compares (key : Key) (left : FileTree) :
    Except SystemError Place → Except SystemError Place → Prop
  | same (result : Except SystemError Place) : Compares key left result result
  | nowhere (cause causeLeft : SystemError) :
      Compares key left (.error cause) (.error causeLeft)
  | there {node : Node} (isFile : node.kind = .file) :
      Compares key left (.ok ⟨key, some node⟩) (.ok ⟨key, left.node? key⟩)

/-- The step: both paths go on in the same way, or both end. -/
theorem turn_differsAt {key : Key} {tree left : FileTree} (differs : DiffersAt key tree left)
    (through : Bool) (links : Nat) (directory : Key) (part : Text) (last : Bool) :
    tree.turn through links directory part last = left.turn through links directory part last ∨
      ∃ result resultLeft, tree.turn through links directory part last = .ends result ∧
        left.turn through links directory part last = .ends resultLeft ∧
          Compares key left result resultLeft := by
  by_cases component : (!Path.isComponent part) = true
  · exact .inl (by rw [turn, turn, if_pos component, if_pos component])
  by_cases named : (part == Path.up) = true
  · exact .inl (by rw [turn, turn, if_neg component, if_neg component, if_pos named, if_pos named])
  by_cases short : nameLimit < (Utf8.encode part).length
  · exact .inl (by rw [turn, turn, if_neg component, if_neg component, if_neg named,
      if_neg named, if_pos short, if_pos short])
  by_cases here : directory ++ [part] = key
  · subst here
    obtain ⟨node, there, isFile⟩ := differs.wasFile
    have wasFile : ∀ other, tree.node? (directory ++ [part]) = some other → other.kind = .file := by
      intro other same
      rw [there] at same
      exact Option.some.inj same ▸ isFile
    obtain ⟨cause, ends⟩ := turn_of_file component named short wasFile through links last
    obtain ⟨causeLeft, endsLeft⟩ :=
      turn_of_file component named short differs.isFile through links last
    refine .inr ⟨_, _, ends, endsLeft, ?_⟩
    cases last with
    | true =>
        simp only [↓reduceIte, there]
        exact .there isFile
    | false => exact .nowhere cause causeLeft
  · left
    unfold turn
    rw [differs.others _ here]

private theorem follow_differsAt {key : Key} {tree left : FileTree}
    (differs : DiffersAt key tree left)
    (through : Bool) (links : Nat) (directory : Key) (parts : List Text) :
    Compares key left (tree.follow through links directory parts)
      (left.follow through links directory parts) := by
  induction links, directory, parts using tree.turn_induction through with
  | nil links directory =>
      rw [follow_nil, follow_nil]
      exact .same _
  | ends links directory part rest result turns =>
      rw [follow_cons, follow_cons, turns]
      rcases turn_differsAt differs through links directory part rest.isEmpty with
        same | ⟨_, resultLeft, ends, endsLeft, compares⟩
      · rw [← same, turns]
        exact .same _
      · obtain rfl := Turn.ends.inj (turns.symm.trans ends)
        rw [endsLeft]
        exact compares
  | goesOn links directory part rest fewer next before turns inductionHypothesis =>
      rcases turn_differsAt differs through links directory part rest.isEmpty with
        same | ⟨result, _, ends, _⟩
      · rw [follow_cons, follow_cons, ← same, turns]
        exact inductionHypothesis
      · exact absurd (turns.symm.trans ends) (by simp)

theorem locate_differsAt {key : Key} {tree left : FileTree} (differs : DiffersAt key tree left)
    (through : Bool) (workingDirectory : Key) (path : Text) :
    Compares key left (tree.locate through workingDirectory path)
      (left.locate through workingDirectory path) := by
  unfold locate
  split
  · exact .same _
  split
  · exact .same _
  split
  · exact .same _
  · exact follow_differsAt differs through linkLimit _ _

/-! ## Looking at files in two trees -/

/-- What a path leads to stays, or it is the file, and the file is gone. -/
theorem kindAt?_differsAt {key : Key} {tree left : FileTree}
    (differs : DiffersAt key tree left) (through : Bool)
    (workingDirectory : Key) (path : Text) :
    left.kindAt? through workingDirectory path = tree.kindAt? through workingDirectory path ∨
      ∃ node, node.kind = .file ∧
        tree.locate through workingDirectory path = .ok ⟨key, some node⟩ ∧
          left.locate through workingDirectory path = .ok ⟨key, none⟩ := by
  have compares := locate_differsAt differs through workingDirectory path
  unfold kindAt? nodeAt
  generalize tree.locate through workingDirectory path = located at compares ⊢
  generalize left.locate through workingDirectory path = locatedLeft at compares ⊢
  cases compares with
  | same result => exact .inl rfl
  | nowhere cause causeLeft => exact .inl rfl
  | @there node isFile =>
      cases stands : left.node? key with
      | none => exact .inr ⟨node, isFile, rfl, rfl⟩
      | some other =>
          left
          simp only [Except.map, Except.toOption, isFile, differs.isFile other stands]

/-- In both trees a path leads to the same directory, or to none. -/
theorem listAt_differsAt {key : Key} {tree left : FileTree} (differs : DiffersAt key tree left)
    (workingDirectory : Key) (path : Text) :
    ((∃ cause, tree.listAt workingDirectory path = .error cause) ∧
      ∃ cause, left.listAt workingDirectory path = .error cause) ∨
    ∃ directory,
      left.locate true workingDirectory path = .ok ⟨directory, some .directory⟩ ∧
        tree.listAt workingDirectory path = .ok (tree.entries directory) ∧
          left.listAt workingDirectory path = .ok (left.entries directory) := by
  have compares := locate_differsAt differs true workingDirectory path
  generalize before : tree.locate true workingDirectory path = located at compares
  generalize after : left.locate true workingDirectory path = locatedLeft at compares
  cases compares with
  | same =>
      rcases located with cause | ⟨found, node?⟩
      · exact .inl ⟨⟨_, listAt_of_error before⟩, ⟨_, listAt_of_error after⟩⟩
      by_cases isDirectory : node? = some .directory
      · subst isDirectory
        exact .inr ⟨found, rfl, listAt_of_directory before, listAt_of_directory after⟩
      · exact .inl ⟨listAt_of_file before isDirectory, listAt_of_file after isDirectory⟩
  | nowhere cause causeLeft =>
      exact .inl ⟨⟨_, listAt_of_error before⟩, ⟨_, listAt_of_error after⟩⟩
  | @there node isFile =>
      have noDirectory : some node ≠ some Node.directory := by
        intro same
        rw [Option.some.inj same] at isFile
        exact absurd isFile (by decide)
      have noDirectoryLeft : left.node? key ≠ some Node.directory := fun same =>
        absurd (differs.isFile _ same) (by decide)
      exact .inl ⟨listAt_of_file before noDirectory, listAt_of_file after noDirectoryLeft⟩

end DocSamples.FileTree

namespace DocSamples.Machine

open FileTree hiding FileStep

variable {machine : Machine} {left : FileTree}

private theorem fades_of_differsAt {key : Key} (differs : DiffersAt key machine.tree left)
    (path : Text) :
    host.Fades machine { machine with tree := left } path := by
  rcases kindAt?_differsAt differs false machine.workingDirectory path with
    itself | ⟨node, isFile, stood, vanished⟩
  · rcases kindAt?_differsAt differs true machine.workingDirectory path with
      leads | ⟨node, isFile, led, gone⟩
    · exact .stays itself leads
    · have ledTo := kindAt?_of_located led
      rw [Option.map_some, isFile] at ledTo
      exact .dangles itself ledTo (kindAt?_of_located gone)
  -- A path at which the file stands itself leads to it, before and after.
  · have led := machine.tree.locate_through stood (by
      intro target same
      obtain rfl := Option.some.inj same
      exact absurd isFile (by simp [Node.kind]))
    have gone := left.locate_through vanished (by simp)
    have stoodAt := kindAt?_of_located stood
    have ledTo := kindAt?_of_located led
    rw [Option.map_some, isFile] at stoodAt ledTo
    exact .removed stoodAt ledTo (kindAt?_of_located vanished) (kindAt?_of_located gone)

def FileStep (before after : Machine) : Prop :=
  ∃ left, FileTree.FileStep before.tree left ∧ after = { before with tree := left }

/-- Overwriting or removing a regular file leaves a machine with fewer files at most. -/
theorem thins_of_fileStep {after : Machine} (tidy : machine.tree.Tidy)
    (step : FileStep machine after) : host.Thins machine after := by
  obtain ⟨left, step, rfl⟩ := step
  obtain ⟨key, differs⟩ := step.differsAt
  have listed := listAt_differsAt differs machine.workingDirectory
  refine ⟨fades_of_differsAt differs, fun path => ?_, fun path entries entriesLeft before after => ?_⟩
  · rcases listed path with ⟨refused, refusedLeft⟩ | ⟨directory, _, before, after⟩
    · exact ⟨fun _ => refused, fun _ => refusedLeft⟩
    · constructor
      · rintro ⟨cause, refused⟩
        exact absurd (after.symm.trans refused) (by simp)
      · rintro ⟨cause, refused⟩
        exact absurd (before.symm.trans refused) (by simp)
  · rcases listed path with ⟨⟨cause, refused⟩, _⟩ | ⟨directory, leads, here, there⟩
    · exact absurd (refused.symm.trans before) (by simp)
    obtain rfl : machine.tree.entries directory = entries := Except.ok.inj (here.symm.trans before)
    obtain rfl : left.entries directory = entriesLeft := Except.ok.inj (there.symm.trans after)
    obtain ⟨kept, perm, lost⟩ := entries_of_fileStep tidy step directory
    refine ⟨kept, perm, fun entry member leftOut => ?_⟩
    obtain ⟨isFile, nothing⟩ := lost entry member leftOut
    obtain ⟨node, inNodes, _⟩ := mem_entries member
    have slashless := (tidy.proper _ inNodes entry.name (by simp)).2
    refine ⟨isFile, ?_⟩
    rw [← Bool.not_eq_true, Files.isFile_iff]
    exact left.kindAt?_join_ne_file leads slashless nothing

/-- So do any number of such steps. -/
theorem thins_of_fileSteps {after : Machine} (tidy : machine.tree.Tidy)
    (steps : Relation.ReflTransGen FileStep machine after) :
    host.Thins machine after ∧ after.tree.Tidy := by
  induction steps with
  | refl => exact ⟨Files.Thins.refl machine, tidy⟩
  | tail _ step inductionHypothesis =>
      obtain ⟨thins, tidyBefore⟩ := inductionHypothesis
      refine ⟨thins.trans (thins_of_fileStep tidyBefore step), ?_⟩
      obtain ⟨left, ofTree, rfl⟩ := step
      exact ofTree.tidy tidyBefore

/-- A machine whose tree is tidy lists its directories by names. -/
theorem listsNames_of_tidy (tidy : machine.tree.Tidy) : host.ListsNames machine := by
  intro path entries listed
  obtain ⟨directory, rfl⟩ : ∃ directory, entries = machine.tree.entries directory := by
    have listedAt : machine.tree.listAt machine.workingDirectory path = .ok entries := listed
    unfold listAt at listedAt
    split at listedAt
    · cases listedAt
    · cases listedAt
    · exact ⟨_, (Except.ok.inj listedAt).symm⟩
    · cases listedAt
  refine ⟨nodup_entries tidy directory, fun entry member => ?_⟩
  obtain ⟨node, inNodes, _⟩ := mem_entries member
  exact tidy.proper _ inNodes entry.name (by simp)

end DocSamples.Machine
