import Gangway.Files.Snapshot
import Gangway.Proofs.Config.Supply

/-!
# The precedence of layers

Each setting has the value of the highest layer that supplies it: the command line, the environment,
the file, or else the defaults. `effective` says which value that is, and `Layered` what loading
makes of it: the value is taken as a whole, what a higher layer supplies hides whatever lies below
it, and no setting has a say in another. `load_layered` holds for every file whose tables of
settings are tables.
-/

namespace Gangway.Config

/-- Where the file has anything in place of the tables of settings, it has tables. -/
def Tabular (file : Value) : Prop :=
  ∀ table ∈ ["engine", "ssh"], ∀ value ∈ valueAt? [table] file, value.IsTable

instance (value : Value) : Decidable value.IsTable :=
  match value with
  | .table entries => isTrue ⟨entries, rfl⟩
  | .null | .boolean _ | .number _ | .text _ | .list _ => isFalse nofun

instance (file : Value) : Decidable (Tabular file) :=
  inferInstanceAs
    (Decidable (∀ table ∈ ["engine", "ssh"], ∀ value ∈ valueAt? [table] file, value.IsTable))

/-- The value of a setting: that of the highest layer that supplies it. -/
def effective (arguments : Arguments) (environment : Environment) (file : Option Value)
    (setting : Setting) : Value :=
  ((arguments.supplied setting).or
    ((environment.supplied setting).or (supplied file setting))).getD setting.standard

theorem valueAt?_defaults (setting : Setting) :
    valueAt? setting.path Settings.defaults = some setting.standard := by
  cases setting <;> rfl

theorem opens_pair {table key : String} {value : Value} (isTable : value.IsTable)
    (inner : ∀ middle ∈ valueAt? [table] value, middle.IsTable) :
    Opens [table, key] value := by
  obtain ⟨entries, rfl⟩ := isTable
  refine ⟨entries, rfl, fun middle found => ?_⟩
  obtain ⟨below, rfl⟩ := inner middle (by rw [valueAt?_cons, found]; rfl)
  exact ⟨below, rfl, fun _ _ => trivial⟩

theorem opens_of_tabular {file : Value} (isTable : file.IsTable) (tabular : Tabular file)
    (setting : Setting) : Opens setting.path file := by
  cases setting with
  | documents | runtimeDirectory | defaultSocket | stripAuthority =>
    exact opens_pair isTable (tabular "engine" (by decide))
  | knownHosts | strictHostKeys => exact opens_pair isTable (tabular "ssh" (by decide))

theorem layer_of_chosen {environment : Environment} {files : Files} {named : Option String}
    {file : Option Value} (chosen : chosenLayer environment files named = .ok file)
    (tabular : ∀ value ∈ file, Tabular value) : ∀ value ∈ file, Layer value := by
  rintro value ⟨⟩
  obtain ⟨tidy, isTable⟩ := tidy_of_chosen chosen value rfl
  exact ⟨tidy, opens_of_tabular isTable (tabular _ rfl)⟩

theorem tabular_defaults : Tabular Settings.defaults := by
  intro table member value found
  simp only [List.mem_cons, List.not_mem_nil, or_false] at member
  rcases member with rfl | rfl
  · exact ⟨_, (Option.some.inj found).symm⟩
  · exact ⟨_, (Option.some.inj found).symm⟩

theorem opens_defaults (setting : Setting) : Opens setting.path Settings.defaults :=
  opens_of_tabular ⟨_, rfl⟩ tabular_defaults setting

/-- Layers that are merged leave at each setting what they overlay there. -/
theorem valueAt?_foldl_merge {layers : List Value} (upper : ∀ layer ∈ layers, Layer layer)
    {base : Value} (opened : ∀ setting : Setting, Opens setting.path base) (setting : Setting) :
    valueAt? setting.path (layers.foldl merge base) =
      layers.foldl (fun below layer => overlay below (valueAt? setting.path layer))
        (valueAt? setting.path base) := by
  induction layers generalizing base with
  | nil => rfl
  | cons layer rest ih =>
    obtain ⟨first, upper⟩ := List.forall_mem_cons.1 upper
    rw [List.foldl_cons, List.foldl_cons,
      ih upper fun other => (opened other).merge first.tidy (first.opens other),
      valueAt?_merge first.tidy (opened setting) (first.opens setting)]

theorem foldl_overlay_toList (setting : Setting) (below layer : Option Value) :
    layer.toList.foldl (fun below layer => overlay below (valueAt? setting.path layer)) below =
      overlay below (supplied layer setting) := by
  cases layer with
  | none => exact (overlay_none_right below).symm
  | some value => rfl

theorem overlay_of_leaf {base : Value} {top : Option Value}
    (leaf : ¬base.IsTable ∨ ∀ value ∈ top, ¬value.IsTable) :
    overlay (some base) top = some (top.getD base) := by
  cases top with
  | none => rfl
  | some value =>
    rw [overlay_some, Option.getD_some]
    rcases leaf with base | top
    · rw [merge_onto_not_isTable base]
    · rw [merge_of_not_isTable (top value rfl)]

variable {environment : Environment} {files : Files} {arguments : Arguments} {file : Option Value}

/-- The merged layers hold the value of the highest layer at each setting. -/
theorem valueAt?_layers {own : Option Value} (chosen : ∀ value ∈ file, Layer value)
    (read : variableLayer settingVariables environment = .ok own) (setting : Setting) :
    valueAt? setting.path ((file.toList ++ own.toList ++ (argumentLayer arguments).toList).foldl
      merge Settings.defaults) = some (effective arguments environment file setting) := by
  obtain ⟨middle, told⟩ := layer_variableLayer read
  obtain ⟨top, options⟩ := layer_argumentLayer arguments
  have layers : ∀ layer ∈ file.toList ++ own.toList ++ (argumentLayer arguments).toList,
      Layer layer := by
    simp only [List.mem_append, Option.mem_toList]
    rintro layer ((member | member) | member)
    · exact chosen layer member
    · exact middle layer member
    · exact top layer member
  have standard : ¬setting.standard.IsTable := by cases setting <;> exact nofun
  rw [valueAt?_foldl_merge layers opens_defaults, List.foldl_append, List.foldl_append,
    foldl_overlay_toList, foldl_overlay_toList, foldl_overlay_toList, told, options,
    valueAt?_defaults, overlay_of_leaf (.inl standard),
    overlay_of_leaf (.inr fun _ said => (tidy_of_supplied said).2),
    overlay_of_leaf (.inr fun _ said => (tidy_of_said arguments said).2), effective]
  cases arguments.supplied setting <;> cases environment.supplied setting <;> rfl

theorem load_of_not_chosen {error : ConfigError}
    (failed : chosenLayer environment files arguments.config = .error error) :
    load environment files arguments = .error error := by
  unfold load
  rw [failed]
  rfl

theorem load_of_fault {error : ConfigError}
    (chosen : chosenLayer environment files arguments.config = .ok file)
    (faulty : Setting.all.findSome? (fault? environment) = some error) :
    load environment files arguments = .error error := by
  unfold load
  rw [chosen, variableLayer_eq_error_iff.2 faulty]
  rfl

/-- Without faults in a file or a variable, the settings are those of the leaves. -/
theorem load_of_spelled (chosen : chosenLayer environment files arguments.config = .ok file)
    (tabular : ∀ value ∈ file, Tabular value) (spelled : environment.Spelled) :
    load environment files arguments =
      (Settings.ofLeaves (effective arguments environment file)).mapError .merged := by
  cases read : variableLayer settingVariables environment with
  | error error =>
    rw [variableLayer_eq_error_iff, spelled_iff.1 spelled] at read
    cases read
  | ok own =>
    have layers := layer_of_chosen chosen tabular
    have leaves : Settings.ofValue _ = Settings.ofLeaves (effective arguments environment file) :=
      Settings.ofValue_eq_ofLeaves (valueAt?_layers layers read)
    unfold load Settings.ofLayers
    simp only [chosen, read, bind, Except.bind, leaves]
    cases Settings.ofLeaves (effective arguments environment file) <;> rfl

/-- Where the file is read, loading succeeds exactly if every variable is well spelled and the
effective values are those of some settings. -/
theorem load_eq_ok_iff (chosen : chosenLayer environment files arguments.config = .ok file)
    (tabular : ∀ value ∈ file, Tabular value) {settings : Settings} :
    load environment files arguments = .ok settings ↔
      environment.Spelled ∧ ∃ raw : Settings,
        (∀ setting, raw.written setting = effective arguments environment file setting) ∧
          raw.completed = settings := by
  by_cases spelled : environment.Spelled
  · rw [load_of_spelled chosen tabular spelled, mapError_eq_ok_iff, Settings.ofLeaves_eq_ok_iff]
    exact (and_iff_right spelled).symm
  · have faulty := mt spelled_iff.2 spelled
    obtain ⟨error, found⟩ := Option.ne_none_iff_exists'.1 faulty
    rw [load_of_fault chosen found]
    exact ⟨nofun, fun settled => absurd settled.1 spelled⟩

theorem exists_chosen_of_load {settings : Settings}
    (loaded : load environment files arguments = .ok settings) :
    ∃ file, chosenLayer environment files arguments.config = .ok file := by
  cases chosen : chosenLayer environment files arguments.config with
  | error error => cases (load_of_not_chosen chosen).symm.trans loaded
  | ok file => exact ⟨file, rfl⟩

/-- Each setting that is loaded is the effective one. -/
theorem written_of_load (chosen : chosenLayer environment files arguments.config = .ok file)
    (tabular : ∀ value ∈ file, Tabular value) {settings : Settings}
    (loaded : load environment files arguments = .ok settings) (setting : Setting) :
    settings.written setting =
      setting.completed (effective arguments environment file setting) := by
  obtain ⟨-, raw, same, rfl⟩ := (load_eq_ok_iff chosen tabular).1 loaded
  rw [Settings.written_completed, same]

/-- Whatever the layers hold, the socket that is loaded is not empty. -/
theorem defaultSocket_ne_of_load {settings : Settings}
    (loaded : load environment files arguments = .ok settings) :
    settings.engine.defaultSocket ≠ "" := by
  obtain ⟨file, -, loaded⟩ := bind_eq_ok_iff.1 loaded
  obtain ⟨own, -, loaded⟩ := bind_eq_ok_iff.1 loaded
  dsimp only at loaded
  split at loaded
  case h_1 read =>
    cases loaded
    obtain ⟨raw, rfl⟩ := Settings.exists_completed_of_ofValue read
    exact raw.defaultSocket_completed_ne
  case h_2 => cases loaded

/-- Another environment and file that differ from the first at most where a higher layer supplies
the setting. -/
structure Alike (arguments : Arguments) (environment other : Environment)
    (file instead : Option Value) : Prop where
  raw : ∀ setting, arguments.supplied setting = none →
    other.get? setting.variableName = environment.get? setting.variableName
  leaf : ∀ setting, arguments.supplied setting = none →
    environment.get? setting.variableName = none → supplied instead setting = supplied file setting

namespace Alike

variable {other : Environment} {instead : Option Value}

/-- The variables that the command line overrides have no faults. -/
theorem fault?_of_said {setting : Setting} (said : arguments.supplied setting ≠ none) :
    fault? environment setting = none := by
  rw [fault?_eq_none_iff]
  intro raw _
  cases setting with
  | documents | knownHosts => exact ⟨_, rfl⟩
  | runtimeDirectory | defaultSocket | stripAuthority | strictHostKeys => exact absurd rfl said

theorem findSome?_fault? (alike : Alike arguments environment other file instead) :
    Setting.all.findSome? (fault? other) = Setting.all.findSome? (fault? environment) := by
  congr 1
  funext setting
  by_cases said : arguments.supplied setting = none
  · rw [fault?, fault?, alike.raw setting said]
  · rw [fault?_of_said said, fault?_of_said said]

theorem effective_eq (alike : Alike arguments environment other file instead)
    (spelled : environment.Spelled) :
    effective arguments other instead = effective arguments environment file := by
  funext setting
  unfold effective
  cases said : arguments.supplied setting with
  | some value => rfl
  | none =>
    unfold Environment.supplied
    rw [alike.raw setting said]
    cases found : environment.get? setting.variableName with
    | none => rw [alike.leaf setting said found]
    | some raw =>
      obtain ⟨value, read⟩ := spelled setting raw found
      rw [Option.bind_some, read]
      rfl

/-- What a higher layer supplies hides whatever lies below it. -/
theorem load_eq (alike : Alike arguments environment other file instead) {others : Files}
    (chosen : chosenLayer environment files arguments.config = .ok file)
    (tabular : ∀ value ∈ file, Tabular value)
    (chosen' : chosenLayer other others arguments.config = .ok instead)
    (tabular' : ∀ value ∈ instead, Tabular value) :
    load other others arguments = load environment files arguments := by
  have faults := alike.findSome?_fault?
  by_cases spelled : environment.Spelled
  · have spelled' : other.Spelled := spelled_iff.2 (faults.trans (spelled_iff.1 spelled))
    rw [load_of_spelled chosen tabular spelled, load_of_spelled chosen' tabular' spelled',
      alike.effective_eq spelled]
  · obtain ⟨error, found⟩ := Option.ne_none_iff_exists'.1 (mt spelled_iff.2 spelled)
    rw [load_of_fault chosen found, load_of_fault chosen' (faults.trans found)]

end Alike

/-- The names of the variables that lead to the configuration file. -/
def placeVariables : List String := [pathVariable, "XDG_CONFIG_HOME", "XDG_CONFIG_DIRS", "HOME"]

theorem variableName_notMem (setting : Setting) : setting.variableName ∉ placeVariables := by
  cases setting <;> decide

theorem chosenLayer_congr {other : Environment} {named : Option String}
    (same : ∀ name ∈ placeVariables, other.value? name = environment.value? name) :
    chosenLayer other files named = chosenLayer environment files named := by
  have path := same pathVariable (by decide)
  have own := same "XDG_CONFIG_HOME" (by decide)
  have shared := same "XDG_CONFIG_DIRS" (by decide)
  have home := same "HOME" (by decide)
  unfold chosenLayer chosenFile candidates settingsDirectories Environment.nonEmptyValue?
  rw [path, own, shared, home]

section Overridden

variable {other : Environment}
  (same : ∀ name, (∀ setting : Setting, name = setting.variableName →
    arguments.supplied setting = none) → other.value? name = environment.value? name)

include same

/-- Another value of a setting's variable does not lead to another file. -/
theorem chosenLayer_of_overridden (named : Option String) :
    chosenLayer other files named = chosenLayer environment files named := by
  refine chosenLayer_congr fun name member => same name fun setting named => ?_
  exact absurd (named ▸ member) (variableName_notMem setting)

/-- A variable counts for nothing where the command line supplies its setting. -/
theorem load_of_overridden
    (tabular : ∀ file, chosenLayer environment files arguments.config = .ok (some file) →
      Tabular file) :
    load other files arguments = load environment files arguments := by
  have kept : chosenLayer other files arguments.config =
      chosenLayer environment files arguments.config := chosenLayer_of_overridden same _
  cases chosen : chosenLayer environment files arguments.config with
  | error error => rw [load_of_not_chosen chosen, load_of_not_chosen (kept.trans chosen)]
  | ok file =>
    have tables : ∀ value ∈ file, Tabular value := by
      rintro value ⟨⟩
      exact tabular value chosen
    have alike : Alike arguments environment other file file := by
      refine ⟨fun setting said => Environment.get?_congr (same _ fun again named => ?_),
        fun _ _ _ => rfl⟩
      exact Setting.variableName_injective named ▸ said
    exact alike.load_eq chosen tables (kept.trans chosen) tables

end Overridden

/-- What loading makes of the layers. -/
structure Layered (environment : Environment) (files : Files) (arguments : Arguments) : Prop where
  /-- Each setting is the value of the highest layer that supplies it, as a whole; an empty socket
  becomes the standard one. -/
  holds : ∀ settings, load environment files arguments = .ok settings →
    ∃ file, chosenLayer environment files arguments.config = .ok file ∧
      ∀ setting, settings.written setting =
        setting.completed (effective arguments environment file setting)
  /-- Loading succeeds exactly if the variables are well spelled and these values are such that
  settings can have them. -/
  succeeds : ∀ file, chosenLayer environment files arguments.config = .ok file →
    ((∃ settings, load environment files arguments = .ok settings) ↔
      environment.Spelled ∧ ∃ raw : Settings,
        ∀ setting, raw.written setting = effective arguments environment file setting)
  /-- The socket is never empty. -/
  socket : ∀ settings, load environment files arguments = .ok settings →
    settings.engine.defaultSocket ≠ ""
  /-- Changes of the environment and the file to what a higher layer supplies change nothing in the
  outcome. -/
  hides : ∀ file, chosenLayer environment files arguments.config = .ok file →
    ∀ other others instead, chosenLayer other others arguments.config = .ok instead →
      (∀ value ∈ instead, Tabular value) → Alike arguments environment other file instead →
        load other others arguments = load environment files arguments
  /-- Nor does a change of the variables of settings that the command line supplies. -/
  overrides : ∀ other : Environment,
    (∀ name, (∀ setting : Setting, name = setting.variableName →
      arguments.supplied setting = none) → other.value? name = environment.value? name) →
        load other files arguments = load environment files arguments
  /-- A setting that all layers leave as it is keeps its value, whatever becomes of the others. -/
  apart : ∀ file settings, chosenLayer environment files arguments.config = .ok file →
    load environment files arguments = .ok settings →
      ∀ other others options instead changed,
        chosenLayer other others options.config = .ok instead →
          (∀ value ∈ instead, Tabular value) → load other others options = .ok changed →
            ∀ setting, options.supplied setting = arguments.supplied setting →
              other.get? setting.variableName = environment.get? setting.variableName →
                supplied instead setting = supplied file setting →
                  changed.written setting = settings.written setting

/-- **The precedence of layers.** For every command line, environment and file whose tables of
settings are tables, loading takes each setting from the highest layer that supplies it. -/
theorem load_layered (environment : Environment) (files : Files) (arguments : Arguments)
    (tabular : ∀ file, chosenLayer environment files arguments.config = .ok (some file) →
      Tabular file) :
    Layered environment files arguments := by
  have given : ∀ {file}, chosenLayer environment files arguments.config = .ok file →
      ∀ value ∈ file, Tabular value := by
    rintro _ chosen value ⟨⟩
    exact tabular value chosen
  refine ⟨?_, ?_, fun _ => defaultSocket_ne_of_load, ?_, ?_, ?_⟩
  · intro settings loaded
    obtain ⟨file, chosen⟩ := exists_chosen_of_load loaded
    exact ⟨file, chosen, written_of_load chosen (given chosen) loaded⟩
  · intro file chosen
    simp only [load_eq_ok_iff chosen (given chosen)]
    constructor
    · rintro ⟨settings, spelled, raw, same, -⟩
      exact ⟨spelled, raw, same⟩
    · rintro ⟨spelled, raw, same⟩
      exact ⟨_, spelled, raw, same, rfl⟩
  · intro file chosen other others instead chosen' tabular' alike
    exact alike.load_eq chosen (given chosen) chosen' tabular'
  · intro other same
    exact load_of_overridden same tabular
  · intro file settings chosen loaded other others options instead changed chosen' tabular' loaded'
      setting option raw leaf
    have before := written_of_load chosen (given chosen) loaded setting
    have after := written_of_load chosen' tabular' loaded' setting
    have same : effective options other instead setting =
        effective arguments environment file setting := by
      unfold effective Environment.supplied
      rw [option, raw, leaf]
    rw [after, same, before]

/-- A file with a list, a socket that is no text, and a truth value. -/
def overriddenText : String :=
  "[engine]\ncontainers_conf = [\"/a.conf\", \"/b.conf\"]\ndefault_socket = 7\n" ++
    "[ssh]\nstrict_host_keys = true\n"

/-- A file system with that file alone. -/
def overriddenFiles : Files := Snapshot.files [⟨"c.toml", true, .ok overriddenText⟩]

/-- A command line that names the file, and one document in place of the list. -/
def overridingArguments : Arguments where
  command := .resolve
  config := some "c.toml"
  documents := ["/c.conf"]

/-- An environment with a socket. -/
def overridingEnvironment : Environment where
  get? name := if name = "PODLINK_ENGINE_DEFAULT_SOCKET" then some "/env.sock" else none

/-- The list is replaced as a whole, the socket of the wrong type is hidden, and the truth value is
the file's. -/
theorem load_layered_overridden :
    (∀ file, chosenLayer overridingEnvironment overriddenFiles overridingArguments.config =
      .ok (some file) → Tabular file) ∧
    Layered overridingEnvironment overriddenFiles overridingArguments ∧
    load overridingEnvironment overriddenFiles overridingArguments =
      .ok { engine := { documents := some ["/c.conf"], defaultSocket := "/env.sock" }
            ssh := { strictHostKeys := true } } := by
  have tabular : ∀ file, chosenLayer overridingEnvironment overriddenFiles
      overridingArguments.config = .ok (some file) → Tabular file := by
    intro file chosen
    have checked : (chosenLayer overridingEnvironment overriddenFiles
        overridingArguments.config).toOption.join.all (decide <| Tabular ·) = true := by
      decide +kernel
    rw [chosen] at checked
    exact of_decide_eq_true checked
  exact ⟨tabular, load_layered _ _ _ tabular, by decide +kernel⟩

end Gangway.Config
