import DocSamples.Config.BuildRun
import DocSamples.Config.Toolchain
import DocSamples.Proofs.Toml.Writing

/-!
Contract: configurations read back from documents of texts.

Owns:
- what a setting is, by what is assigned to its key;
- that either configuration has for each of its settings what was written, or the default.

Neither the order of the entries matters, nor the entries under other keys.
-/

namespace DocSamples

/-- Whether a value is that of a key: what is assigned to it, or the default if nothing is. -/
structure Sets (entries : List (Text × Text)) (key : String) (default value : Text) : Prop where
  assigned : ∀ given, (key.toList, given) ∈ entries → value = given
  absent : key.toList ∉ entries.map Prod.fst → value = default

private theorem lookup_textEntries (entries : List (Text × Text)) (key : Text) :
    (Toml.textEntries entries).lookup key = (entries.lookup key).map .text := by
  induction entries with
  | nil => rfl
  | cons entry more inductionHypothesis =>
      show List.lookup key ((entry.1, .text entry.2) :: Toml.textEntries more) = _
      rw [List.lookup_cons, List.lookup_cons, inductionHypothesis]
      split
      · rfl
      · rfl

private theorem setting?_textEntries (entries : List (Text × Text)) (key : String)
    (default : Text) :
    setting? (Toml.textEntries entries) key default =
      some ((entries.lookup key.toList).getD default) := by
  unfold setting?
  rw [lookup_textEntries]
  cases entries.lookup key.toList with
  | none => rfl
  | some value => rfl

private theorem sets_lookup {entries : List (Text × Text)} (distinct : (entries.map Prod.fst).Nodup)
    (key : String) (default : Text) :
    Sets entries key default ((entries.lookup key.toList).getD default) := by
  constructor
  · intro given member
    rw [lookup_of_mem distinct member]
    rfl
  · intro absent
    rw [lookup_eq_none_iff.2 absent]
    rfl

/-- **Configurations read back.**  A document with a line for each entry, in any order, with bare
keys that differ and any texts under them, is read as either configuration.  Each setting is what
was written under its key, and the default if nothing was; other keys do not matter. -/
theorem configs_of_writeDocument (upper ended : Bool) {entries : List (Text × Text)}
    (bare : ∀ entry ∈ entries, Toml.IsBare entry.1) (distinct : (entries.map Prod.fst).Nodup) :
    let document := Toml.writeDocument upper ended entries
    (∃ config, ToolchainConfig.ofText document = .ok config ∧
      Sets entries "compile-only" ({} : ToolchainConfig).compileOnly config.compileOnly ∧
      Sets entries "compile-and-run" ({} : ToolchainConfig).compileAndRun config.compileAndRun ∧
      Sets entries "stdin-arg" ({} : ToolchainConfig).inputArgument config.inputArgument) ∧
    ∃ config, BuildRunConfig.ofText document = .ok config ∧
      Sets entries "neon" ({} : BuildRunConfig).neon config.neon ∧
      Sets entries "builder-script" ({} : BuildRunConfig).buildScript config.buildScript := by
  intro document
  have read : Toml.read? document = some (Toml.textEntries entries) :=
    Toml.read?_writeDocument upper ended bare distinct
  let given (key : String) (default : Text) := (entries.lookup key.toList).getD default
  constructor
  · let default : ToolchainConfig := {}
    refine ⟨⟨given "compile-only" default.compileOnly, given "compile-and-run" default.compileAndRun,
      given "stdin-arg" default.inputArgument⟩, ?_, sets_lookup distinct _ _,
      sets_lookup distinct _ _, sets_lookup distinct _ _⟩
    rw [ToolchainConfig.ofText, read, Option.bind_some, ToolchainConfig.ofEntries?,
      setting?_textEntries, setting?_textEntries, setting?_textEntries]
    rfl
  · let default : BuildRunConfig := {}
    refine ⟨⟨given "neon" default.neon, given "builder-script" default.buildScript⟩, ?_,
      sets_lookup distinct _ _, sets_lookup distinct _ _⟩
    rw [BuildRunConfig.ofText, read, Option.bind_some, BuildRunConfig.ofEntries?,
      setting?_textEntries, setting?_textEntries]
    rfl

/-- Quotes, a comment sign, the end of a line and a NUL under a known key, an empty text under
another, and a key that is not known. -/
theorem configs_of_writeDocument_odd :
    let given := "\"[a] = # \\\n\x00\"".toList
    let entries := [("x-1".toList, "neon".toList), ("stdin-arg".toList, []),
      ("compile-only".toList, given)]
    let document := Toml.writeDocument true false entries
    (∃ config, ToolchainConfig.ofText document = .ok config ∧ config.compileOnly = given ∧
      config.compileAndRun = "bin/neon".toList ∧ config.inputArgument = []) ∧
    ∃ config, BuildRunConfig.ofText document = .ok config ∧ config.neon = "bin/neon".toList := by
  intro given entries document
  have bare : ∀ entry ∈ entries, Toml.IsBare entry.1 := by
    intro entry member
    have proper : entries.all (fun entry =>
        !entry.1.isEmpty && entry.1.all Toml.isKeyCharacter) = true := by
      decide
    have here := List.all_eq_true.1 proper entry member
    rw [Bool.and_eq_true, Bool.not_eq_true', List.isEmpty_eq_false_iff, List.all_eq_true] at here
    exact ⟨here.1, here.2⟩
  obtain ⟨⟨toolchain, readToolchain, compileOnly, compileAndRun, inputArgument⟩,
    buildRun, readBuildRun, neon, -⟩ := configs_of_writeDocument true false bare (by decide)
  exact ⟨⟨toolchain, readToolchain, compileOnly.assigned _ (by decide),
    compileAndRun.absent (by decide), inputArgument.assigned _ (by decide)⟩,
    buildRun, readBuildRun, neon.absent (by decide)⟩

end DocSamples
