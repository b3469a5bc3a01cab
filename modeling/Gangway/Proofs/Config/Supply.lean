import Gangway.Config.Load
import Gangway.Proofs.Config.Leaves

/-!
# What each layer supplies

A layer supplies a setting if it holds a value at the path of the setting. The command line and the
environment are said here without layers (`Arguments.supplied`, `Environment.supplied`), and the
layers that are built of them supply just that. All layers are tidy and open on the path of every
setting, except that a file may have something else than tables there.
-/

namespace Gangway

open Config (Value Variable VariableKind writeTexts)

namespace Setting

/-- The variable of a setting. -/
def variableName : Setting → String
  | .documents => "PODLINK_ENGINE_CONTAINERS_CONF"
  | .runtimeDirectory => "PODLINK_ENGINE_XDG_RUNTIME_DIR"
  | .defaultSocket => "PODLINK_ENGINE_DEFAULT_SOCKET"
  | .stripAuthority => "PODLINK_ENGINE_STRIP_UNIX_AUTHORITY"
  | .knownHosts => "PODLINK_SSH_KNOWN_HOSTS"
  | .strictHostKeys => "PODLINK_SSH_STRICT_HOST_KEYS"

theorem variableName_injective {setting other : Setting}
    (same : setting.variableName = other.variableName) : setting = other := by
  revert same
  cases setting <;> cases other <;> decide

/-- The value that a text stands for. Truth values have one spelling each. -/
def ofText (setting : Setting) (raw : String) : Option Value :=
  match setting with
  | .documents => some (writeTexts (Config.splitPaths raw))
  | .runtimeDirectory | .defaultSocket | .knownHosts => some (.text raw)
  | .stripAuthority | .strictHostKeys =>
    if raw = "true" then some (.boolean true)
    else if raw = "false" then some (.boolean false)
    else none

/-- How the variable of a setting is read. -/
def setter (setting : Setting) : Variable where
  name := setting.variableName
  path := setting.path
  kind :=
    match setting with
    | .documents => .paths
    | .runtimeDirectory | .defaultSocket | .knownHosts => .text
    | .stripAuthority | .strictHostKeys => .flag

theorem settingVariables_eq : Config.settingVariables = all.map setter := rfl

theorem read_setter_eq_ok_iff {setting : Setting} {raw : String} {value : Value} :
    setting.setter.read raw = .ok value ↔ setting.ofText raw = some value := by
  have flag : ∀ setter : Variable, setter.kind = .flag → (setter.read raw = .ok value ↔
      (if raw = "true" then some (Value.boolean true)
        else if raw = "false" then some (.boolean false) else none) = some value) := by
    intro setter kind
    unfold Variable.read
    rw [kind]
    dsimp only
    split
    · simp
    split <;> simp
  cases setting with
  | documents => simp [setter, Variable.read, ofText, writeTexts]
  | runtimeDirectory | defaultSocket | knownHosts => simp [setter, Variable.read, ofText]
  | stripAuthority | strictHostKeys => exact flag _ rfl

theorem ofText_tidy {setting : Setting} {raw : String} {value : Value}
    (read : setting.ofText raw = some value) : value.Tidy ∧ ¬value.IsTable := by
  cases setting with
  | documents =>
    cases read
    exact ⟨Value.tidy_texts _, nofun⟩
  | runtimeDirectory | defaultSocket | knownHosts =>
    cases read
    exact ⟨.text, nofun⟩
  | stripAuthority | strictHostKeys =>
    unfold ofText at read
    dsimp only at read
    split at read
    · cases read
      exact ⟨.boolean, nofun⟩
    split at read
    · cases read
      exact ⟨.boolean, nofun⟩
    · cases read

end Setting

/-- What the environment says of a setting. -/
def Environment.supplied (environment : Environment) (setting : Setting) : Option Value :=
  (environment.get? setting.variableName).bind setting.ofText

/-- Every variable of a setting holds a text that stands for a value. -/
def Environment.Spelled (environment : Environment) : Prop :=
  ∀ setting : Setting, ∀ raw, environment.get? setting.variableName = some raw →
    ∃ value, setting.ofText raw = some value

/-- What the command line says of a setting. -/
def Arguments.supplied (arguments : Arguments) : Setting → Option Value
  | .documents =>
    if arguments.documents = [] then none else some (writeTexts arguments.documents)
  | .knownHosts => arguments.knownHosts.map .text
  | .runtimeDirectory | .defaultSocket | .stripAuthority | .strictHostKeys => none

namespace Config

/-- What a layer, if there is one, says of a setting. -/
def supplied (layer : Option Value) (setting : Setting) : Option Value :=
  layer.bind (valueAt? setting.path)

/-- A layer that holds each key once and has nothing but tables in front of the settings. -/
structure Layer (value : Value) : Prop where
  tidy : value.Tidy
  opens : ∀ setting : Setting, Opens setting.path value

/-- The entries with what is said of a setting, if anything is. -/
def supply (setting : Setting) (said : Option Value) (entries : Entries) : Entries :=
  match said with
  | some value => insertAt value setting.path entries
  | none => entries

/-- The layer of entries; without entries there is none. -/
def layerOf (entries : Entries) : Option Value :=
  if entries.isEmpty then none else some (.table entries)

section Layers

variable {entries : Entries} {value : Value} {said : Option Value}

theorem Layer.nil : Layer (.table []) :=
  ⟨.table List.nodup_nil nofun, fun _ => opens_nil⟩

theorem Layer.supply (layer : Layer (.table entries)) (tidy : ∀ value ∈ said, value.Tidy)
    (setting : Setting) : Layer (.table (Config.supply setting said entries)) := by
  cases said with
  | none => exact layer
  | some value =>
    have keyed := Value.tidy_table_iff.1 layer.tidy
    exact ⟨Value.tidy_table_iff.2 (keyed_insertAt keyed (tidy value rfl)),
      fun other => (layer.opens other).insertAt (setting.path_apart other)⟩

theorem valueAt?_supply (layer : Layer (.table entries)) (setting other : Setting) :
    valueAt? other.path (.table (supply setting said entries)) =
      (if other = setting then said else none).or (valueAt? other.path (.table entries)) := by
  cases said with
  | none =>
    rw [ite_self, Option.none_or]
    rfl
  | some value =>
    split
    case isTrue same =>
      subst same
      exact valueAt?_insertAt (by cases other <;> exact List.cons_ne_nil _ _) (layer.opens other)
    case isFalse different =>
      refine valueAt?_insertAt_of_apart ((setting.path_apart other).resolve_left fun same => ?_)
      exact different (Setting.path_injective same).symm

theorem valueAt?_nil (setting : Setting) : valueAt? setting.path (.table []) = none := by
  cases setting <;> rfl

theorem supplied_layerOf (setting : Setting) :
    supplied (layerOf entries) setting = valueAt? setting.path (.table entries) := by
  cases entries with
  | nil => exact (valueAt?_nil setting).symm
  | cons head rest => rfl

theorem Layer.of_mem_layerOf (layer : Layer (.table entries)) (member : value ∈ layerOf entries) :
    Layer value := by
  cases entries with
  | nil => cases member
  | cons head rest =>
    cases member
    exact layer

end Layers

section Variables

variable {environment : Environment} {entries result : Entries}

/-- The fault of a setting's variable, if it has one. -/
def fault? (environment : Environment) (setting : Setting) : Option ConfigError :=
  match environment.get? setting.variableName with
  | none => none
  | some raw =>
    match setting.setter.read raw with
    | .error error => some error
    | .ok _ => none

theorem addVariables_cons (setting : Setting) (rest : List Setting) :
    addVariables environment entries ((setting :: rest).map Setting.setter) =
      match environment.get? setting.variableName with
      | none => addVariables environment entries (rest.map Setting.setter)
      | some raw =>
        match setting.setter.read raw with
        | .error error => .error error
        | .ok value =>
          addVariables environment (insertAt value setting.path entries)
            (rest.map Setting.setter) := rfl

/-- The first faulty variable is reported. -/
theorem addVariables_eq_error_iff (entries : Entries) {settings : List Setting}
    {error : ConfigError} :
    addVariables environment entries (settings.map Setting.setter) = .error error ↔
      settings.findSome? (fault? environment) = some error := by
  induction settings generalizing entries with
  | nil => exact ⟨nofun, nofun⟩
  | cons setting rest ih =>
    rw [addVariables_cons, List.findSome?_cons, fault?]
    cases environment.get? setting.variableName with
    | none => exact ih entries
    | some raw =>
      dsimp only
      cases setting.setter.read raw with
      | error cause => simp
      | ok value => exact ih _

/-- Where the variables have no faults, what the first says is added in front of the others. -/
theorem addVariables_cons_of_ok {setting : Setting} {rest : List Setting}
    (added : addVariables environment entries ((setting :: rest).map Setting.setter) = .ok result) :
    addVariables environment (supply setting (environment.supplied setting) entries)
      (rest.map Setting.setter) = .ok result := by
  rw [addVariables_cons] at added
  unfold Environment.supplied
  cases found : environment.get? setting.variableName with
  | none =>
    rw [found] at added
    exact added
  | some raw =>
    rw [found] at added
    cases read : setting.setter.read raw with
    | error error =>
      simp only [read] at added
      cases added
    | ok value =>
      simp only [read] at added
      rw [Option.bind_some, Setting.read_setter_eq_ok_iff.1 read]
      exact added

theorem tidy_of_supplied {setting : Setting} {value : Value}
    (said : environment.supplied setting = some value) : value.Tidy ∧ ¬value.IsTable := by
  obtain ⟨raw, -, read⟩ := Option.bind_eq_some_iff.1 said
  exact Setting.ofText_tidy read

/-- Variables that are all well spelled add what they supply. -/
theorem layer_addVariables {settings : List Setting} (layer : Layer (.table entries))
    (added : addVariables environment entries (settings.map Setting.setter) = .ok result) :
    Layer (.table result) ∧ ∀ other : Setting, valueAt? other.path (.table result) =
      (if other ∈ settings then environment.supplied other else none).or
        (valueAt? other.path (.table entries)) := by
  induction settings generalizing entries with
  | nil =>
    cases added
    exact ⟨layer, fun _ => rfl⟩
  | cons setting rest ih =>
    obtain ⟨whole, leaves⟩ := ih (layer.supply (fun _ said => (tidy_of_supplied said).1) setting)
      (addVariables_cons_of_ok added)
    refine ⟨whole, fun other => ?_⟩
    rw [leaves, valueAt?_supply layer, ← Option.or_assoc]
    congr 1
    by_cases same : other = setting
    · subst same
      rw [if_pos rfl, if_pos List.mem_cons_self]
      split
      · exact Option.or_self
      · exact Option.none_or
    · rw [if_neg same, Option.or_none]
      simp only [List.mem_cons, same, false_or]

theorem variableLayer_map_eq_error_iff {settings : List Setting} {error : ConfigError} :
    variableLayer (settings.map Setting.setter) environment = .error error ↔
      settings.findSome? (fault? environment) = some error := by
  rw [← addVariables_eq_error_iff []]
  unfold variableLayer
  cases addVariables environment [] (settings.map Setting.setter) with
  | error cause => exact ⟨fun | rfl => rfl, fun | rfl => rfl⟩
  | ok entries => exact ⟨nofun, nofun⟩

theorem variableLayer_eq_error_iff {error : ConfigError} :
    variableLayer settingVariables environment = .error error ↔
      Setting.all.findSome? (fault? environment) = some error := by
  rw [Setting.settingVariables_eq, variableLayer_map_eq_error_iff]

/-- The layer of the environment supplies what its variables say. -/
theorem layer_variableLayer {layer : Option Value}
    (read : variableLayer settingVariables environment = .ok layer) :
    (∀ value ∈ layer, Layer value) ∧
      ∀ setting, supplied layer setting = environment.supplied setting := by
  unfold variableLayer at read
  cases added : addVariables environment [] settingVariables with
  | error error =>
    rw [added] at read
    cases read
  | ok entries =>
    rw [added] at read
    cases read
    rw [Setting.settingVariables_eq] at added
    obtain ⟨whole, leaves⟩ := layer_addVariables .nil added
    refine ⟨fun value => whole.of_mem_layerOf, fun setting => (supplied_layerOf setting).trans ?_⟩
    rw [leaves, if_pos setting.mem_all, valueAt?_nil, Option.or_none]

theorem fault?_eq_none_iff {setting : Setting} :
    fault? environment setting = none ↔
      ∀ raw, environment.get? setting.variableName = some raw →
        ∃ value, setting.ofText raw = some value := by
  simp only [← Setting.read_setter_eq_ok_iff]
  unfold fault?
  cases environment.get? setting.variableName with
  | none => exact ⟨fun _ => nofun, fun _ => rfl⟩
  | some raw =>
    dsimp only
    cases read : setting.setter.read raw with
    | error error =>
      refine ⟨nofun, fun spelled => ?_⟩
      obtain ⟨value, given⟩ := spelled raw rfl
      cases read.symm.trans given
    | ok value => exact ⟨fun _ _ same => ⟨value, Option.some.inj same ▸ read⟩, fun _ => rfl⟩

theorem spelled_iff :
    environment.Spelled ↔ Setting.all.findSome? (fault? environment) = none := by
  rw [List.findSome?_eq_none_iff]
  exact ⟨fun spelled setting _ => fault?_eq_none_iff.2 (spelled setting),
    fun clean setting => fault?_eq_none_iff.1 (clean setting setting.mem_all)⟩

end Variables

section Arguments

variable (arguments : Arguments)

theorem argumentLayer_eq :
    argumentLayer arguments =
      layerOf (supply .knownHosts (arguments.supplied .knownHosts)
        (supply .documents (arguments.supplied .documents) [])) := by
  unfold argumentLayer layerOf Arguments.supplied
  cases arguments.documents <;> cases arguments.knownHosts <;> rfl

theorem tidy_of_said {setting : Setting} {value : Value}
    (said : arguments.supplied setting = some value) : value.Tidy ∧ ¬value.IsTable := by
  cases setting with
  | documents =>
    unfold Arguments.supplied at said
    dsimp only at said
    split at said
    · cases said
    · cases said
      exact ⟨Value.tidy_texts _, nofun⟩
  | knownHosts =>
    obtain ⟨path, -, rfl⟩ := Option.map_eq_some_iff.1 said
    exact ⟨.text, nofun⟩
  | runtimeDirectory | defaultSocket | stripAuthority | strictHostKeys => cases said

/-- The layer of the command line supplies what its options say. -/
theorem layer_argumentLayer :
    (∀ value ∈ argumentLayer arguments, Layer value) ∧
      ∀ setting, supplied (argumentLayer arguments) setting = arguments.supplied setting := by
  have tidy : ∀ setting, ∀ value ∈ arguments.supplied setting, value.Tidy :=
    fun _ _ said => (tidy_of_said arguments said).1
  have first := Layer.nil.supply (tidy .documents) .documents
  have whole := first.supply (tidy .knownHosts) .knownHosts
  rw [argumentLayer_eq]
  refine ⟨fun value => whole.of_mem_layerOf, fun setting => ?_⟩
  rw [supplied_layerOf, valueAt?_supply first, valueAt?_supply .nil, valueAt?_nil]
  cases setting <;> simp [Arguments.supplied]

end Arguments

/-- The layer of a file is a table that holds each key once. -/
theorem tidy_fileLayer {files : Files} {path : String} {value : Value}
    (read : fileLayer files path = .ok value) : value.Tidy ∧ value.IsTable := by
  unfold fileLayer at read
  split at read
  · cases read
  · cases read
  · split at read
    · next entries given =>
      cases read
      obtain ⟨document, parsed, given⟩ := Option.bind_eq_some_iff.1 given
      have tidy : (Toml.Value.table document).Tidy :=
        Toml.Value.tidy_table_iff.2 (Toml.keyed_readDocument parsed)
      refine ⟨tidy_ofToml tidy ?_, entries, rfl⟩
      rw [ofToml, given]
      rfl
    · cases read

/-- So is the layer of the file that is chosen. -/
theorem tidy_of_chosen {environment : Environment} {files : Files} {named : Option String}
    {file : Option Value} (chosen : chosenLayer environment files named = .ok file) :
    ∀ value ∈ file, value.Tidy ∧ value.IsTable := by
  rintro value ⟨⟩
  unfold chosenLayer at chosen
  split at chosen
  · next path _ =>
    cases read : fileLayer files path with
    | error error =>
      rw [read] at chosen
      cases chosen
    | ok layer =>
      rw [read] at chosen
      cases chosen
      exact tidy_fileLayer read
  · cases chosen

end Config

end Gangway
