import Gangway.Proofs.Config.Precedence
import Gangway.Proofs.Config.Reordering

/-!
# What loading depends on

The layers of the environment and the command line are made of leaves, which are laid on the
defaults and the file one by one (`lay`). Of two leaves for one setting the command line's counts,
and in what order the others are laid does not matter, since settings are read by their names. So
loading depends on nothing but the file, the faults of variables, and what the command line or else
the environment supplies for each setting (`load_congr`), whatever the file holds.
-/

namespace Gangway.Config

/-! ## Reading -/

/-- Values that differ in no more than the order of entries are read alike. -/
def Steady {α : Type} (read : Read α) : Prop :=
  ∀ field value value', Value.Same value value' → read field value = read field value'

theorem steady_text : Steady readText := by
  intro field value value' same
  cases same <;> rfl

theorem steady_flag : Steady readFlag := by
  intro field value value' same
  cases same <;> rfl

theorem steady_texts : Steady readTexts := by
  intro field value value' same
  cases same <;> rfl

section Readers

variable {α : Type} {read : Read α}

theorem Steady.optional (steady : Steady read) : Steady (readOptional read) := by
  intro field value value' same
  cases same with
  | refl => rfl
  | table keys inner =>
    exact congrArg (Except.map some) (steady field _ _ (.table keys inner))

theorem Steady.field (steady : Steady read) {held held' : Option Value}
    (same : Option.Rel Value.Same held held') (field : String) (default : α) :
    readField read field default held = readField read field default held' := by
  cases same with
  | none => rfl
  | some same => exact steady field _ _ same

end Readers

theorem readEngine_table (field : String) (entries : Entries) :
    readEngine field (.table entries) = do
      let documents ← readField (readOptional readTexts) "containers_conf" none
        (entries.lookup "containers_conf")
      let runtimeDirectory ← readField (readOptional readText) "xdg_runtime_dir" none
        (entries.lookup "xdg_runtime_dir")
      let defaultSocket ← readField readText "default_socket" standardSocket
        (entries.lookup "default_socket")
      let stripAuthority ← readField readFlag "strip_unix_authority" false
        (entries.lookup "strip_unix_authority")
      return { documents, runtimeDirectory, defaultSocket, stripAuthority } := rfl

theorem readSsh_table (field : String) (entries : Entries) :
    readSsh field (.table entries) = do
      let knownHosts ← readField (readOptional readText) "known_hosts" none
        (entries.lookup "known_hosts")
      let strictHostKeys ← readField readFlag "strict_host_keys" false
        (entries.lookup "strict_host_keys")
      return { knownHosts, strictHostKeys } := rfl

theorem steady_engine : Steady readEngine := by
  intro field value value' same
  cases same with
  | refl => rfl
  | @table entries other keys inner =>
    have held : ∀ key, Option.Rel Value.Same (entries.lookup key) (other.lookup key) :=
      (Value.Same.table keys inner).child
    rw [readEngine_table, readEngine_table, steady_texts.optional.field (held _),
      steady_text.optional.field (held _), steady_text.field (held _), steady_flag.field (held _)]

theorem steady_ssh : Steady readSsh := by
  intro field value value' same
  cases same with
  | refl => rfl
  | @table entries other keys inner =>
    have held : ∀ key, Option.Rel Value.Same (entries.lookup key) (other.lookup key) :=
      (Value.Same.table keys inner).child
    rw [readSsh_table, readSsh_table, steady_text.optional.field (held _),
      steady_flag.field (held _)]

theorem ofValue_table (entries : Entries) :
    Settings.ofValue (.table entries) = do
      let engine ← readField readEngine "engine" {} (entries.lookup "engine")
      let ssh ← readField readSsh "ssh" {} (entries.lookup "ssh")
      return Settings.completed { engine, ssh } := rfl

/-- Settings are read by their names, in whatever order a value holds them. -/
theorem ofValue_congr {value value' : Value} (same : value.Same value') :
    Settings.ofValue value = Settings.ofValue value' := by
  cases same with
  | refl => rfl
  | @table entries other keys inner =>
    have held : ∀ key, Option.Rel Value.Same (entries.lookup key) (other.lookup key) :=
      (Value.Same.table keys inner).child
    rw [ofValue_table, ofValue_table, steady_engine.field (held _), steady_ssh.field (held _)]

/-! ## Laying leaves -/

/-- What is said of settings are leaves. -/
def Leafy (said : Setting → Option Value) : Prop :=
  ∀ setting value, said setting = some value → value.Tidy ∧ ¬value.IsTable

/-- The value with what is said of a setting on top, if anything is. -/
def layOn (setting : Setting) (said : Option Value) (base : Value) : Value :=
  match said with
  | some value => merge base (spine value setting.path)
  | none => base

/-- The value with what is said of each setting on top, one after the other. -/
def lay (said : Setting → Option Value) (settings : List Setting) (base : Value) : Value :=
  settings.foldl (fun base setting => layOn setting (said setting) base) base

section Laying

variable {said above : Setting → Option Value} {setting other : Setting}
  {settings : List Setting} {base base' : Value} {entries result : Entries}

theorem lay_cons : lay said (setting :: settings) base =
    lay said settings (layOn setting (said setting) base) := rfl

theorem layOn_congr (leafy : Leafy said) (same : base.Same base') :
    (layOn setting (said setting) base).Same (layOn setting (said setting) base') := by
  cases given : said setting with
  | none => exact same
  | some value => exact same.merge (tidy_spine (leafy setting value given).1 setting.path)

theorem lay_congr (leafy : Leafy said) (same : base.Same base') :
    (lay said settings base).Same (lay said settings base') := by
  induction settings generalizing base base' with
  | nil => exact same
  | cons setting rest ih => exact ih (layOn_congr leafy same)

/-- The leaves of different settings may be laid in either order. -/
theorem layOn_comm (different : setting ≠ other) (one two : Option Value) :
    (layOn setting one (layOn other two base)).Same (layOn other two (layOn setting one base)) := by
  have apart : Apart other.path setting.path :=
    (other.path_apart setting).resolve_left fun same => different (Setting.path_injective same).symm
  cases one with
  | none => exact .refl _
  | some value =>
    cases two with
    | none => exact .refl _
    | some value' => exact merge_spine_comm apart

theorem lay_layOn (leafy : Leafy said) (fresh : setting ∉ settings) (one : Option Value)
    (base : Value) :
    (lay said settings (layOn setting one base)).Same
      (layOn setting one (lay said settings base)) := by
  induction settings generalizing base with
  | nil => exact .refl _
  | cons first rest ih =>
    obtain ⟨different, fresh⟩ := not_or.1 (mt List.mem_cons.2 fresh)
    exact (lay_congr leafy (layOn_comm (Ne.symm different) _ _)).trans (ih fresh _)

/-- Of two leaves for a setting the upper one counts. -/
theorem layOn_layOn (leafy : Leafy above) (setting : Setting) (below : Option Value)
    (base : Value) :
    (layOn setting (above setting) (layOn setting below base)).Same
      (layOn setting ((above setting).or below) base) := by
  cases given : above setting with
  | none => exact .refl _
  | some value =>
    cases below with
    | none => exact .refl _
    | some value' => exact merge_spine_spine (leafy setting value given).2

theorem leafy_or (leafy : Leafy said) (leafy' : Leafy above) :
    Leafy fun setting => (above setting).or (said setting) := by
  intro setting value given
  rcases Option.or_eq_some_iff.1 given with upper | ⟨-, lower⟩
  · exact leafy' setting value upper
  · exact leafy setting value lower

/-- What is laid on top of what was laid before replaces it, setting by setting. -/
theorem lay_lay (leafy : Leafy said) (leafy' : Leafy above) (once : settings.Nodup) :
    (lay above settings (lay said settings base)).Same
      (lay (fun setting => (above setting).or (said setting)) settings base) := by
  induction settings generalizing base with
  | nil => exact .refl _
  | cons setting rest ih =>
    obtain ⟨fresh, once⟩ := List.nodup_cons.1 once
    rw [lay_cons, lay_cons, lay_cons]
    have moved := lay_layOn leafy fresh (above setting) (layOn setting (said setting) base)
    have joined := layOn_layOn leafy' setting (said setting) base
    exact (lay_congr leafy' moved.symm).trans
      ((ih once).trans (lay_congr (leafy_or leafy leafy') joined))

/-- Leaves may be laid in any order. -/
theorem lay_perm (leafy : Leafy said) {reordered : List Setting} (perm : settings.Perm reordered) :
    (lay said settings base).Same (lay said reordered base) := by
  induction perm generalizing base with
  | nil => exact .refl _
  | cons setting _ ih => exact ih
  | swap setting other rest =>
    simp only [lay_cons]
    apply lay_congr leafy
    by_cases same : setting = other
    · subst same
      exact .refl _
    · exact layOn_comm same _ _
  | trans _ _ ih ih' => exact ih.trans ih'

/-! ## Layers of leaves -/

theorem path_ne_nil (setting : Setting) : setting.path ≠ [] := by
  cases setting <;> exact List.cons_ne_nil _ _

theorem merge_supply (layer : Layer (.table entries)) (leafy : Leafy said) (setting : Setting)
    (base : Value) :
    (merge base (.table (supply setting (said setting) entries))).Same
      (layOn setting (said setting) (merge base (.table entries))) := by
  cases given : said setting with
  | none => exact .refl _
  | some value =>
    obtain ⟨tidy, leaf⟩ := leafy setting value given
    exact merge_insertAt (Value.tidy_table_iff.1 layer.tidy) tidy leaf (path_ne_nil setting)
      (layer.opens setting)

theorem merge_layerOf (isTable : base.IsTable) :
    (layerOf entries).toList.foldl merge base = merge base (.table entries) := by
  obtain ⟨below, rfl⟩ := isTable
  cases entries <;> rfl

theorem isTable_merge_layerOf (isTable : base.IsTable) :
    ((layerOf entries).toList.foldl merge base).IsTable := by
  rw [merge_layerOf isTable]
  exact isTable_merge base entries

theorem merge_empty (isTable : base.IsTable) : merge base (.table []) = base := by
  obtain ⟨below, rfl⟩ := isTable
  rfl

end Laying

section Variables

variable {environment : Environment} {base : Value} {entries result : Entries} {own : Option Value}

theorem leafy_environment (environment : Environment) : Leafy environment.supplied :=
  fun _ _ => tidy_of_supplied

theorem leafy_arguments (arguments : Arguments) : Leafy arguments.supplied :=
  fun _ _ => tidy_of_said arguments

/-- Variables are added like leaves that are laid one by one. -/
theorem merge_addVariables {settings : List Setting} (layer : Layer (.table entries))
    (added : addVariables environment entries (settings.map Setting.setter) = .ok result)
    (base : Value) :
    (merge base (.table result)).Same
      (lay environment.supplied settings (merge base (.table entries))) := by
  have leafy := leafy_environment environment
  induction settings generalizing entries with
  | nil =>
    cases added
    exact .refl _
  | cons setting rest ih =>
    have more := layer.supply (fun value said => (leafy setting value said).1) setting
    have laid := ih more (addVariables_cons_of_ok added)
    exact laid.trans (lay_congr leafy (merge_supply layer leafy setting base))

theorem exists_addVariables {table : List Variable}
    (read : variableLayer table environment = .ok own) :
    ∃ entries, addVariables environment [] table = .ok entries ∧ own = layerOf entries := by
  unfold variableLayer at read
  obtain ⟨entries, added, read⟩ := bind_eq_ok_iff.1 read
  cases read
  exact ⟨entries, added, rfl⟩

/-- The layer of the environment is merged like its leaves. -/
theorem merge_variableLayer (isTable : base.IsTable)
    (read : variableLayer settingVariables environment = .ok own) :
    (own.toList.foldl merge base).Same (lay environment.supplied Setting.all base) := by
  obtain ⟨entries, added, rfl⟩ := exists_addVariables read
  rw [Setting.settingVariables_eq] at added
  have laid := merge_addVariables Layer.nil added base
  rwa [merge_empty isTable, ← merge_layerOf isTable] at laid

/-- The layer of the command line is merged like its leaves. -/
theorem merge_argumentLayer (isTable : base.IsTable) (arguments : Arguments) :
    ((argumentLayer arguments).toList.foldl merge base).Same
      (lay arguments.supplied Setting.all base) := by
  have leafy := leafy_arguments arguments
  have tidy : ∀ value ∈ arguments.supplied .documents, value.Tidy :=
    fun value said => (leafy .documents value said).1
  have first := merge_supply Layer.nil leafy .documents base
  have second := merge_supply (Layer.nil.supply tidy .documents) leafy .knownHosts base
  rw [merge_empty isTable] at first
  rw [argumentLayer_eq, merge_layerOf isTable]
  exact second.trans (layOn_congr leafy first)

end Variables

/-! ## Loading -/

section Loading

variable {environment other : Environment} {files : Files} {arguments options : Arguments}
  {file own : Option Value}

/-- The defaults with the file on top are a table. -/
theorem isTable_under (chosen : chosenLayer environment files arguments.config = .ok file) :
    (file.toList.foldl merge Settings.defaults).IsTable := by
  cases file with
  | none => exact ⟨_, rfl⟩
  | some value =>
    obtain ⟨-, entries, rfl⟩ := tidy_of_chosen chosen value rfl
    exact isTable_merge Settings.defaults entries

/-- All layers merged are the file with what the command line or else the environment supplies. -/
theorem merge_layers (chosen : chosenLayer environment files arguments.config = .ok file)
    (read : variableLayer settingVariables environment = .ok own) :
    ((file.toList ++ own.toList ++ (argumentLayer arguments).toList).foldl merge
        Settings.defaults).Same
      (lay (fun setting => (arguments.supplied setting).or (environment.supplied setting))
        Setting.all (file.toList.foldl merge Settings.defaults)) := by
  have under := isTable_under chosen
  have middle : (own.toList.foldl merge (file.toList.foldl merge Settings.defaults)).IsTable := by
    obtain ⟨entries, -, rfl⟩ := exists_addVariables read
    exact isTable_merge_layerOf under
  have leafy := leafy_environment environment
  have leafy' := leafy_arguments arguments
  rw [List.foldl_append, List.foldl_append]
  have upper := merge_argumentLayer middle arguments
  have lower := merge_variableLayer under read
  exact upper.trans ((lay_congr leafy' lower).trans (lay_lay leafy leafy' (by decide)))

theorem load_of_read (chosen : chosenLayer environment files arguments.config = .ok file)
    (read : variableLayer settingVariables environment = .ok own) :
    load environment files arguments =
      (Settings.ofLayers (file.toList ++ own.toList ++ (argumentLayer arguments).toList)).mapError
        .merged := by
  unfold load
  simp only [chosen, read, bind, Except.bind]
  cases Settings.ofLayers (file.toList ++ own.toList ++ (argumentLayer arguments).toList) <;> rfl

/-- **What loading depends on.** Two runs with the same file, the same faults of variables, and the
same to say of each setting, the command line first, load the same settings or fail alike. -/
theorem load_congr
    (chosen : chosenLayer other files options.config =
      chosenLayer environment files arguments.config)
    (faults : Setting.all.findSome? (fault? other) = Setting.all.findSome? (fault? environment))
    (said : ∀ setting, (options.supplied setting).or (other.supplied setting) =
      (arguments.supplied setting).or (environment.supplied setting)) :
    load other files options = load environment files arguments := by
  cases found : chosenLayer environment files arguments.config with
  | error error => rw [load_of_not_chosen found, load_of_not_chosen (chosen.trans found)]
  | ok file =>
    cases read : variableLayer settingVariables environment with
    | error error =>
      have faulty := variableLayer_eq_error_iff.1 read
      rw [load_of_fault found faulty, load_of_fault (chosen.trans found) (faults.trans faulty)]
    | ok own =>
      cases read' : variableLayer settingVariables other with
      | error error =>
        rw [variableLayer_eq_error_iff, faults, ← variableLayer_eq_error_iff, read] at read'
        cases read'
      | ok own' =>
        have layers := merge_layers found read
        have layers' := merge_layers (chosen.trans found) read'
        simp only [said] at layers'
        rw [load_of_read found read, load_of_read (chosen.trans found) read', Settings.ofLayers,
          Settings.ofLayers, ofValue_congr (layers'.trans layers.symm)]

end Loading

end Gangway.Config
