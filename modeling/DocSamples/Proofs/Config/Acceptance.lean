import DocSamples.Config.BuildRun
import DocSamples.Config.Toolchain
import DocSamples.Proofs.Toml.Nesting

/-!
Contract: which documents a configuration is had from.

Owns:
- the settings of either configuration, each with its key, its default and its place;
- when the entries of a document suit the settings, and what each setting then is;
- that either configuration is had from exactly the documents that suit its settings.

Only the entries at the top of a document count.  What lies within their values, and what stands
under other keys, is read over, however deep it is.
-/

namespace DocSamples

/-! ## Settings -/

/-- What a configuration takes from a document. -/
structure Setting (Config : Type) where
  key : String
  default : Text
  get : Config → Text

def ToolchainConfig.settings : List (Setting ToolchainConfig) :=
  let default : ToolchainConfig := {}
  [⟨"compile-only", default.compileOnly, compileOnly⟩,
    ⟨"compile-and-run", default.compileAndRun, compileAndRun⟩,
    ⟨"stdin-arg", default.inputArgument, inputArgument⟩]

def BuildRunConfig.settings : List (Setting BuildRunConfig) :=
  let default : BuildRunConfig := {}
  [⟨"neon", default.neon, neon⟩, ⟨"builder-script", default.buildScript, buildScript⟩]

variable {Config : Type}

/-- Whether settings can be had from entries: no key is repeated, and what stands under the key of a
setting is a text. -/
structure Suits (entries : Toml.Entries) (settings : List (Setting Config)) : Prop where
  distinct : (entries.map Prod.fst).Nodup
  texts : ∀ setting ∈ settings, ∀ value, (setting.key.toList, value) ∈ entries →
    ∃ text, value = .text text

/-- Whether a text is that of a setting: what stands under its key, or its default if nothing
does. -/
structure Setting.IsSetTo (setting : Setting Config) (entries : Toml.Entries) (value : Text) :
    Prop where
  given : ∀ text, (setting.key.toList, .text text) ∈ entries → value = text
  absent : setting.key.toList ∉ entries.map Prod.fst → value = setting.default

/-- Whether a result is right for entries: a configuration, all of whose settings are right, if the
entries suit them, and the one error that there is otherwise. -/
structure Understands (entries : Toml.Entries) (settings : List (Setting Config))
    (result : Except ConfigError Config) : Prop where
  accepts : (∃ config, result = .ok config) ↔ Suits entries settings
  refuses : ¬ Suits entries settings → result = .error .malformed
  fills : ∀ config, result = .ok config → ∀ setting ∈ settings,
    setting.IsSetTo entries (setting.get config)

/-! ## One setting -/

section One

variable {entries : Toml.Entries}

theorem setting?_of_mem (distinct : (entries.map Prod.fst).Nodup) {key : String} {text : Text}
    (member : (key.toList, .text text) ∈ entries) (default : Text) :
    setting? entries key default = some text := by
  unfold setting?
  rw [lookup_of_mem distinct member]

theorem setting?_of_notMem {key : String} (absent : key.toList ∉ entries.map Prod.fst)
    (default : Text) : setting? entries key default = some default := by
  unfold setting?
  rw [lookup_eq_none_iff.2 absent]

private theorem text_of_setting? (distinct : (entries.map Prod.fst).Nodup) {key : String}
    {default taken : Text} (found : setting? entries key default = some taken) {value : Toml.Value}
    (member : (key.toList, value) ∈ entries) : ∃ text, value = .text text := by
  unfold setting? at found
  rw [lookup_of_mem distinct member] at found
  cases value with
  | text text => exact ⟨text, rfl⟩
  | _ => exact absurd found nofun

/-- Whatever is taken for a setting is right. -/
theorem Setting.isSetTo {setting : Setting Config} (distinct : (entries.map Prod.fst).Nodup)
    {taken : Text} (found : setting? entries setting.key setting.default = some taken) :
    setting.IsSetTo entries taken where
  given _ member := Option.some.inj (found.symm.trans (setting?_of_mem distinct member _))
  absent absent := Option.some.inj (found.symm.trans (setting?_of_notMem absent _))

/-- Something is taken for a setting if entries suit it. -/
theorem Suits.setting? {settings : List (Setting Config)} (suits : Suits entries settings)
    {setting : Setting Config} (member : setting ∈ settings) :
    ∃ taken, setting? entries setting.key setting.default = some taken := by
  by_cases known : setting.key.toList ∈ entries.map Prod.fst
  · obtain ⟨⟨_, value⟩, there, rfl⟩ := List.mem_map.1 known
    obtain ⟨text, rfl⟩ := suits.texts setting member value there
    exact ⟨text, setting?_of_mem suits.distinct there _⟩
  · exact ⟨_, setting?_of_notMem known _⟩

end One

/-! ## All settings -/

/-- Whether a configuration is had from entries exactly if each of its settings is. -/
structure Collects (settings : List (Setting Config)) (ofEntries? : Toml.Entries → Option Config) :
    Prop where
  taken : ∀ {entries config}, ofEntries? entries = some config → ∀ setting ∈ settings,
    setting? entries setting.key setting.default = some (setting.get config)
  total : ∀ {entries}, (∀ setting ∈ settings,
    ∃ taken, setting? entries setting.key setting.default = some taken) →
    ∃ config, ofEntries? entries = some config

private theorem ToolchainConfig.collects : Collects settings ofEntries? where
  taken found := by
    unfold ofEntries? at found
    simp only [Option.bind_eq_bind, Option.bind_eq_some_iff] at found
    obtain ⟨_, compileOnly, _, compileAndRun, _, inputArgument, made⟩ := found
    obtain rfl := Option.some.inj made
    simp only [settings, List.forall_mem_cons]
    exact ⟨compileOnly, compileAndRun, inputArgument, nofun⟩
  total each := by
    simp only [settings, List.forall_mem_cons] at each
    obtain ⟨⟨_, compileOnly⟩, ⟨_, compileAndRun⟩, ⟨_, inputArgument⟩, -⟩ := each
    unfold ofEntries?
    simp only [Option.bind_eq_bind, Option.bind_eq_some_iff]
    exact ⟨_, _, compileOnly, _, compileAndRun, _, inputArgument, rfl⟩

private theorem BuildRunConfig.collects : Collects settings ofEntries? where
  taken found := by
    unfold ofEntries? at found
    simp only [Option.bind_eq_bind, Option.bind_eq_some_iff] at found
    obtain ⟨_, neon, _, buildScript, made⟩ := found
    obtain rfl := Option.some.inj made
    simp only [settings, List.forall_mem_cons]
    exact ⟨neon, buildScript, nofun⟩
  total each := by
    simp only [settings, List.forall_mem_cons] at each
    obtain ⟨⟨_, neon⟩, ⟨_, buildScript⟩, -⟩ := each
    unfold ofEntries?
    simp only [Option.bind_eq_bind, Option.bind_eq_some_iff]
    exact ⟨_, _, neon, _, buildScript, rfl⟩

private theorem ToolchainConfig.ofText_eq (document : Text) :
    ofText document = ((Toml.read? document).bind ofEntries?).elim (.error .malformed) .ok := by
  unfold ofText
  cases (Toml.read? document).bind ofEntries? with
  | none => rfl
  | some config => rfl

private theorem BuildRunConfig.ofText_eq (document : Text) :
    ofText document = ((Toml.read? document).bind ofEntries?).elim (.error .malformed) .ok := by
  unfold ofText
  cases (Toml.read? document).bind ofEntries? with
  | none => rfl
  | some config => rfl

/-- What is had from a document is right for its entries, if the document is refused exactly for a
repeated key. -/
theorem Collects.understands {settings : List (Setting Config)}
    {ofEntries? : Toml.Entries → Option Config} (collects : Collects settings ofEntries?)
    {read? : Option Toml.Entries} {entries : Toml.Entries}
    (read : read? = if (entries.map Prod.fst).Nodup then some entries else none) :
    Understands entries settings ((read?.bind ofEntries?).elim (.error .malformed) .ok) := by
  by_cases distinct : (entries.map Prod.fst).Nodup
  · rw [read, if_pos distinct, Option.bind_some]
    cases found : ofEntries? entries with
    | none =>
        have unsuited : ¬ Suits entries settings := by
          intro suits
          obtain ⟨config, made⟩ := collects.total fun setting member => suits.setting? member
          rw [found] at made
          exact absurd made nofun
        exact ⟨⟨nofun, fun suits => absurd suits unsuited⟩, fun _ => rfl, nofun⟩
    | some config =>
        have taken := collects.taken found
        have suits : Suits entries settings :=
          ⟨distinct, fun setting member value there =>
            text_of_setting? distinct (taken setting member) there⟩
        refine ⟨⟨fun _ => suits, fun _ => ⟨config, rfl⟩⟩, fun unsuited => absurd suits unsuited, ?_⟩
        rintro _ ⟨⟩ setting member
        exact Setting.isSetTo distinct (taken setting member)
  · rw [read, if_neg distinct]
    exact ⟨⟨nofun, fun suits => absurd suits.distinct distinct⟩, fun _ => rfl, nofun⟩

/-- **Configurations accepted.**  From a document with a line for each entry, under bare keys, with
texts, decimal integers, truth values, and arrays and tables of such values less than 64 deep, a
configuration is had if and only if no key at its top is repeated and those that are known have
texts there.  Each setting is then the text under its key, or its default; otherwise the document
is malformed. -/
theorem configs_of_spelled {depth : Nat} (shallow : depth < 64) {document : Text}
    {entries : Toml.Entries} (spelled : Toml.SpellsDocument depth document entries) :
    Understands entries ToolchainConfig.settings (ToolchainConfig.ofText document) ∧
      Understands entries BuildRunConfig.settings (BuildRunConfig.ofText document) := by
  have within : depth ≤ Toml.nestingLimit := Nat.le_trans (Nat.le_of_lt shallow) (by decide)
  have read := Toml.read?_spelled within spelled
  rw [ToolchainConfig.ofText_eq, BuildRunConfig.ofText_eq]
  exact ⟨ToolchainConfig.collects.understands read, BuildRunConfig.collects.understands read⟩


/-- A key that is known within a table that is not, a number under a key that only one of the
configurations knows, and an escape. -/
theorem configs_of_spelled_nested :
    let document :=
      "x = \x7b neon = '', y = [true, 1] \x7d # =\r\nneon = -1_0\ncompile-only = \"\\x61\"".toList
    2 < 64 ∧
    (∃ config, ToolchainConfig.ofText document = .ok config ∧ config.compileOnly = ['a'] ∧
      config.compileAndRun = "bin/neon".toList ∧ config.inputArgument = ['-']) ∧
    BuildRunConfig.ofText document = .error .malformed := by
  intro document
  let inner : Toml.Entries :=
    [("neon".toList, .text []), ("y".toList, .array [.boolean true, .integer 1])]
  let entries : Toml.Entries :=
    [("x".toList, .table .inline inner), ("neon".toList, .integer (-10)),
      ("compile-only".toList, .text ['a'])]
  have nothing : Toml.Gap [] := .blanks (by decide)
  have blank : Toml.Gap [' '] := .blanks (by decide)
  have noRemark : Toml.LineTail [] := .mk (by decide : Toml.AreBlanks []) .none
  have remark : Toml.LineTail " # =".toList :=
    .mk (by decide : Toml.AreBlanks [' '])
      (@Toml.Remark.comment " =".toList (List.all_iff_forall_prop.1 (by decide)))
  have line : ∀ key {spelling value SpellsValue}, Toml.IsBare key → SpellsValue spelling value →
      Toml.SpellsEntry SpellsValue (key ++ [' '] ++ '=' :: ([' '] ++ spelling)) (key, value) :=
    fun _ _ _ _ bare spelled => .mk bare (by decide) (by decide) spelled
  have truth : Toml.Spells 0 "true".toList (.boolean true) := Toml.SpellsScalar.yes
  have one : Toml.SpellsWhole ['1'] 1 :=
    @Toml.SpellsWhole.mk [['1']] (by decide) (by simp) (by decide)
  have ten : Toml.SpellsWhole "1_0".toList 10 :=
    @Toml.SpellsWhole.mk [['1'], ['0']] (by decide) (by simp) (by decide)
  have integer : Toml.Spells 0 ['1'] (.integer 1) :=
    Toml.SpellsScalar.integer (.unsigned one) (by decide) (by decide)
  have array : Toml.Spells 1 "[true, 1]".toList (.array [.boolean true, .integer 1]) :=
    Toml.SpellsNested.array (.more nothing truth nothing (.last blank integer nothing))
  have empty : Toml.Spells 1 "''".toList (.text []) :=
    Toml.SpellsNested.scalar (.text (@Toml.SpellsText.literal [] nofun))
  have table : Toml.Spells 2 "\x7b neon = '', y = [true, 1] \x7d".toList (.table .inline inner) :=
    Toml.SpellsNested.table (.more blank (line "neon".toList (by decide) empty) nothing
      (.last blank (line "y".toList (by decide) array) blank)) (by decide)
  have negative : Toml.Spells 2 "-1_0".toList (.integer (-10)) :=
    Toml.SpellsNested.scalar (.integer (.minus ten) (by decide) (by decide))
  have hex : Toml.SpellsHex 2 ['6', '1'] 'a'.toNat :=
    .snoc false (.snoc false .nil (by decide : 6 < 16)) (by decide : 1 < 16)
  have letter : Toml.Spells 2 "\"\\x61\"".toList (.text ['a']) :=
    Toml.SpellsNested.scalar (.text (.basic (.cons (.numeric (by decide) hex) .nil)))
  have spelled : Toml.SpellsDocument 2 document entries :=
    .more nothing (line "x".toList (by decide) table) remark .carriageReturn
      (.more nothing (line "neon".toList (by decide) negative) noRemark .lineFeed
        (.last nothing (line "compile-only".toList (by decide) letter) noRemark))
  have suits : Suits entries ToolchainConfig.settings := by
    refine ⟨by decide, fun setting member value there => ?_⟩
    have others : ∀ setting ∈ ToolchainConfig.settings,
        setting.key.toList ≠ "x".toList ∧ setting.key.toList ≠ "neon".toList := by
      decide
    obtain ⟨noX, noNeon⟩ := others setting member
    rcases List.mem_cons.1 there with same | there
    · exact absurd (congrArg Prod.fst same) noX
    rcases List.mem_cons.1 there with same | there
    · exact absurd (congrArg Prod.fst same) noNeon
    · exact ⟨['a'], congrArg Prod.snd (List.mem_singleton.1 there)⟩
  obtain ⟨toolchain, buildRun⟩ := configs_of_spelled (by decide) spelled
  obtain ⟨config, accepted⟩ := toolchain.accepts.2 suits
  have filled := toolchain.fills config accepted
  simp only [ToolchainConfig.settings, List.forall_mem_cons] at filled
  obtain ⟨compileOnly, compileAndRun, inputArgument, -⟩ := filled
  refine ⟨by decide, ⟨config, accepted, compileOnly.given _ ?_, compileAndRun.absent (by decide),
    inputArgument.absent (by decide)⟩, buildRun.refuses fun suits => ?_⟩
  · exact .tail _ (.tail _ (.head _))
  · obtain ⟨text, same⟩ := suits.texts _ (.head _) (.integer (-10)) (.tail _ (.head _))
    exact absurd same nofun

end DocSamples
