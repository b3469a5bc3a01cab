import Gangway.Proofs.Config.VariableLayer
import Gangway.Proofs.Resolution.Sources

/-!
# The environment and the command line agree

Documents and the trust store may be given in a variable or on the command line. Either way they are
the same leaf of a layer, since a list of paths that are joined by colons is split into these paths,
and loading depends on no more than that leaf (`load_assign`), whatever file lies below. Where both
are given, the command line's leaf is the one that is loaded (`written_of_said`).
-/

namespace Gangway

/-! ## Options with their values -/

namespace Arguments

variable {given : Given}

theorem Given.settle_of_settled (settled : given.pending = none) : given.settle = .ok given := by
  unfold Given.settle
  rw [settled]
  rfl

/-- An option with its value after an equals sign is judged at once. -/
theorem Given.take_valued (settled : given.pending = none) (topic : Topic) (option : ValueOption)
    (value : String) :
    given.take topic false ("--" ++ option.name ++ "=" ++ value) =
      { given with pending := some (option, some value) }.settle := by
  have text : ("--" ++ option.name ++ "=" ++ value).toList =
      '-' :: '-' :: (option.name.toList ++ '=' :: value.toList) := by
    simp
  have cut : (option.name.toList ++ '=' :: value.toList).span (· != '=') =
      (option.name.toList, '=' :: value.toList) := by
    refine Text.span_append ?_ fun c first => ?_
    · cases option <;> simp [ValueOption.name]
    · cases first
      rfl
  have named : ValueOption.ofName? option.name.toList = some option := by
    cases option <;> decide
  unfold Given.take
  rw [text]
  simp only [Given.long, cut, named, given.settle_of_settled settled, String.ofList_toList]
  rfl

/-- After a subcommand, what such an option stores is stored before the next argument. -/
theorem afterCommand_valued {stored : Given} (settled : given.pending = none) (command : Command)
    (option : ValueOption) (value : String)
    (judged : { given with pending := some (option, some value) }.settle = .ok stored)
    (rest : List String) :
    afterCommand command given false (("--" ++ option.name ++ "=" ++ value) :: rest) =
      afterCommand command stored false rest := by
  have taken := given.take_valued settled (.command command) option value
  have different : "--" ++ option.name ++ "=" ++ value ≠ "--" := by
    intro same
    have letters := congrArg String.toList same
    simp at letters
  rw [afterCommand]
  simp only [different, taken, judged, decide_false, Bool.false_and, Bool.false_eq_true, if_false,
    bind, Except.bind]

/-- Documents that are given one after the other are kept in their order. -/
theorem afterCommand_documents (settled : given.pending = none) (command : Command)
    (documents : List String) :
    afterCommand command given false (documents.map ("--containers-conf=" ++ ·)) =
      .ok { given with documents := given.documents ++ documents } := by
  induction documents generalizing given with
  | nil =>
    rw [List.append_nil]
    exact given.settle_of_settled settled
  | cons path rest ih =>
    have first := afterCommand_valued settled command .documents path rfl
      (rest.map ("--containers-conf=" ++ ·))
    refine first.trans ?_
    rw [ih rfl, List.append_assoc, List.singleton_append, settled]

/-- A subcommand in front of all options begins a command line. -/
theorem parse_command (command : Command) (options : List String) :
    parse (command.name :: options) =
      (afterCommand command {} false options).map (combine command {}) := by
  cases command <;> rfl

/-- A command line that gives documents, one option for each. -/
theorem parse_documents (command : Command) (documents : List String) :
    parse (command.name :: documents.map ("--containers-conf=" ++ ·)) =
      .ok { command, documents } := by
  have settled : ({} : Given).pending = none := rfl
  rw [parse_command, afterCommand_documents settled]
  cases documents <;> rfl

/-- A command line that gives the trust store. -/
theorem parse_knownHosts (command : Command) (path : String) :
    parse [command.name, "--known-hosts=" ++ path] =
      .ok { command, knownHosts := some path } := by
  have settled : ({} : Given).pending = none := rfl
  have first : afterCommand command {} false ["--known-hosts=" ++ path] =
      afterCommand command { knownHosts := some path } false [] :=
    afterCommand_valued settled command .knownHosts path rfl []
  rw [parse_command, first]
  rfl

end Arguments

namespace Config

/-! ## Variables that are set or unset -/

section Assigning

variable {environment : Environment} {files : Files} {arguments options : Arguments}
  {setting other : Setting} {raw raw' : Option String}

theorem supplied_assign :
    (environment.assign setting.variableName raw).supplied other =
      if other = setting then raw.bind setting.ofText else environment.supplied other := by
  unfold Environment.supplied Environment.assign
  dsimp only
  by_cases same : other = setting
  · rw [if_pos same, if_pos (congrArg Setting.variableName same), same]
  · rw [if_neg same, if_neg (mt Setting.variableName_injective same)]

/-- A variable has no say in the faults of the others. -/
theorem fault?_assign (different : other ≠ setting) :
    fault? (environment.assign setting.variableName raw) other = fault? environment other := by
  unfold fault? Environment.assign
  dsimp only
  rw [if_neg (mt Setting.variableName_injective different)]

/-- A setting whose variable may hold any text. -/
def Lenient (setting : Setting) : Prop := ∀ raw, ∃ value, setting.ofText raw = some value

theorem findSome?_fault?_assign (lenient : Lenient setting) :
    Setting.all.findSome? (fault? (environment.assign setting.variableName raw)) =
      Setting.all.findSome? (fault? (environment.assign setting.variableName raw')) := by
  congr 1
  funext other
  by_cases same : other = setting
  · subst same
    have clean : ∀ raw, fault? (environment.assign other.variableName raw) other = none :=
      fun _ => fault?_eq_none_iff.2 fun raw _ => lenient raw
    rw [clean, clean]
  · rw [fault?_assign same, fault?_assign same]

/-- **One leaf, two ways to give it.** A setting that is given in another way, but with the same
outcome for its leaf, is loaded the same. -/
theorem load_assign {name : String} (named : setting.variableName = name)
    (lenient : Lenient setting) (config : options.config = arguments.config)
    (others : ∀ other, other ≠ setting → options.supplied other = arguments.supplied other)
    (leaf : (options.supplied setting).or (raw.bind setting.ofText) =
      (arguments.supplied setting).or (raw'.bind setting.ofText)) :
    load (environment.assign name raw) files options =
      load (environment.assign name raw') files arguments := by
  subst named
  apply load_congr
  · rw [config]
    apply chosenLayer_congr
    intro name member
    have different : name ≠ setting.variableName :=
      fun same => variableName_notMem setting (same ▸ member)
    rw [Environment.value?_assign_of_ne different, Environment.value?_assign_of_ne different]
  · exact findSome?_fault?_assign lenient
  · intro other
    rw [supplied_assign, supplied_assign]
    by_cases same : other = setting
    · rw [if_pos same, if_pos same, same, leaf]
    · rw [if_neg same, if_neg same, others other same]

end Assigning

/-! ## What the command line decides -/

section Deciding

variable {α : Type} {read : Read α} {write : α → Value} {setting : Setting} {value leaf : Value}

theorem leaf_of_readField (reads : Reads read write) {held : Option Value} {field : String}
    {default content : α} (given : readField read field default held = .ok content)
    (found : held = some leaf) : leaf = write content := by
  subst found
  exact (reads field leaf content).1 given

/-- Settings of the engine that are read from a table have the leaves that the table holds. -/
theorem written_of_readEngine {entries : Entries} {settings : Settings} {key : String}
    (read : readEngine "engine" (.table entries) = .ok settings.engine)
    (placed : setting.path = ["engine", key]) (found : entries.lookup key = some leaf) :
    settings.written setting = leaf := by
  rw [readEngine_table] at read
  obtain ⟨documents, first, read⟩ := bind_eq_ok_iff.1 read
  obtain ⟨runtimeDirectory, second, read⟩ := bind_eq_ok_iff.1 read
  obtain ⟨defaultSocket, third, read⟩ := bind_eq_ok_iff.1 read
  obtain ⟨stripAuthority, fourth, read⟩ := bind_eq_ok_iff.1 read
  unfold Settings.written
  rw [← Except.ok.inj read]
  cases setting with
  | documents =>
    cases placed
    exact (leaf_of_readField (reads_texts.optional nofun) first found).symm
  | runtimeDirectory =>
    cases placed
    exact (leaf_of_readField (reads_text.optional nofun) second found).symm
  | defaultSocket =>
    cases placed
    exact (leaf_of_readField reads_text third found).symm
  | stripAuthority =>
    cases placed
    exact (leaf_of_readField reads_flag fourth found).symm
  | knownHosts | strictHostKeys => exact absurd (List.cons.inj placed).1 (by decide)

/-- So have the settings of ssh. -/
theorem written_of_readSsh {entries : Entries} {settings : Settings} {key : String}
    (read : readSsh "ssh" (.table entries) = .ok settings.ssh)
    (placed : setting.path = ["ssh", key]) (found : entries.lookup key = some leaf) :
    settings.written setting = leaf := by
  rw [readSsh_table] at read
  obtain ⟨knownHosts, first, read⟩ := bind_eq_ok_iff.1 read
  obtain ⟨strictHostKeys, second, read⟩ := bind_eq_ok_iff.1 read
  unfold Settings.written
  rw [← Except.ok.inj read]
  cases setting with
  | knownHosts =>
    cases placed
    exact (leaf_of_readField (reads_text.optional nofun) first found).symm
  | strictHostKeys =>
    cases placed
    exact (leaf_of_readField reads_flag second found).symm
  | documents | runtimeDirectory | defaultSocket | stripAuthority =>
    exact absurd (List.cons.inj placed).1 (by decide)

/-- Each setting for which a value holds a leaf is read from that leaf. -/
theorem written_of_ofValue {settings : Settings} (read : Settings.ofValue value = .ok settings)
    (found : valueAt? setting.path value = some leaf) :
    settings.written setting = setting.completed leaf := by
  have placed : ∃ table key, setting.path = [table, key] := by
    cases setting <;> exact ⟨_, _, rfl⟩
  obtain ⟨table, key, placed⟩ := placed
  rw [placed] at found
  obtain ⟨entries, inner, rfl, upper⟩ := exists_of_valueAt?_pair found
  rw [valueAt?_pair upper] at found
  rw [ofValue_table] at read
  obtain ⟨engine, first, read⟩ := bind_eq_ok_iff.1 read
  obtain ⟨ssh, second, ⟨⟩⟩ := bind_eq_ok_iff.1 read
  rw [Settings.written_completed]
  congr 1
  cases setting with
  | documents | runtimeDirectory | defaultSocket | stripAuthority =>
    cases placed
    rw [upper] at first
    exact written_of_readEngine first rfl found
  | knownHosts | strictHostKeys =>
    cases placed
    rw [upper] at second
    exact written_of_readSsh second rfl found

/-- What the command line says of a setting is what is loaded, whatever the file holds. -/
theorem written_of_said {environment : Environment} {files : Files} {arguments : Arguments}
    {settings : Settings} (loaded : load environment files arguments = .ok settings)
    (said : arguments.supplied setting = some value) :
    settings.written setting = setting.completed value := by
  obtain ⟨file, chosen⟩ := exists_chosen_of_load loaded
  cases given : variableLayer settingVariables environment with
  | error error =>
    have failed := load_of_fault chosen (variableLayer_eq_error_iff.1 given)
    cases failed.symm.trans loaded
  | ok own =>
    rw [load_of_read chosen given, mapError_eq_ok_iff, Settings.ofLayers,
      ofValue_congr (merge_layers chosen given)] at loaded
    -- The leaf of the setting is laid last.
    have last : Setting.all.Perm (Setting.all.erase setting ++ [setting]) :=
      (List.perm_cons_erase setting.mem_all).trans (List.perm_append_singleton _ _).symm
    have leafy := leafy_or (leafy_environment environment) (leafy_arguments arguments)
    rw [ofValue_congr (lay_perm leafy last), lay, List.foldl_append] at loaded
    apply written_of_ofValue loaded
    show valueAt? setting.path (layOn setting _ _) = some value
    rw [said, Option.some_or]
    exact valueAt?_merge_spine (tidy_of_said arguments said).2 _ _

end Deciding

/-! ## Agreement -/

/-- The environment and the command line agree, on top of any file and any other settings. -/
structure Agrees (environment : Environment) (files : Files) (arguments : Arguments) : Prop where
  /-- Repeated options give documents, in their order. -/
  options : ∀ command documents,
    Arguments.parse (command.name :: documents.map ("--containers-conf=" ++ ·)) =
      .ok { command, documents }
  /-- An option gives the trust store. -/
  option : ∀ command path, Arguments.parse [command.name, "--known-hosts=" ++ path] =
      .ok { command, knownHosts := some path }
  /-- Documents may as well be given in the variable, joined by colons. -/
  documents : ∀ documents : List String, documents ≠ [] →
    (∀ path ∈ documents, path ≠ "" ∧ ':' ∉ path.toList) →
      load (environment.assign "PODLINK_ENGINE_CONTAINERS_CONF" none) files
          { arguments with documents } =
        load (environment.assign "PODLINK_ENGINE_CONTAINERS_CONF"
            (some (":".intercalate documents))) files
          { arguments with documents := [] }
  /-- So may the trust store. -/
  knownHosts : ∀ path,
    load (environment.assign "PODLINK_SSH_KNOWN_HOSTS" none) files
        { arguments with knownHosts := some path } =
      load (environment.assign "PODLINK_SSH_KNOWN_HOSTS" (some path)) files
        { arguments with knownHosts := none }
  /-- Where the command line gives documents, the variable's value has no influence, and documents
  that are loaded are those of the command line. -/
  documentsDecide : ∀ documents, documents ≠ [] → ∀ raw,
    load (environment.assign "PODLINK_ENGINE_CONTAINERS_CONF" raw) files
        { arguments with documents } =
      load (environment.assign "PODLINK_ENGINE_CONTAINERS_CONF" none) files
        { arguments with documents } ∧
    ∀ settings, load (environment.assign "PODLINK_ENGINE_CONTAINERS_CONF" raw) files
        { arguments with documents } = .ok settings →
      settings.engine.documents = some documents
  /-- The same holds of the trust store. -/
  knownHostsDecide : ∀ path raw,
    load (environment.assign "PODLINK_SSH_KNOWN_HOSTS" raw) files
        { arguments with knownHosts := some path } =
      load (environment.assign "PODLINK_SSH_KNOWN_HOSTS" none) files
        { arguments with knownHosts := some path } ∧
    ∀ settings, load (environment.assign "PODLINK_SSH_KNOWN_HOSTS" raw) files
        { arguments with knownHosts := some path } = .ok settings →
      settings.ssh.knownHosts = some path

section Agreement

variable {environment : Environment} {files : Files} {arguments : Arguments}

theorem supplied_documents {documents : List String} (given : documents ≠ []) :
    ({ arguments with documents } : Arguments).supplied .documents =
      some (writeTexts documents) :=
  if_neg given

theorem supplied_knownHosts (path : String) :
    ({ arguments with knownHosts := some path } : Arguments).supplied .knownHosts =
      some (.text path) := rfl

/-- **Agreement.** For every environment, file and command line, documents and the trust store may
be given in the variable or on the command line, and the command line decides. -/
theorem load_agrees (environment : Environment) (files : Files) (arguments : Arguments) :
    Agrees environment files arguments := by
  have lenient : Lenient .documents := fun _ => ⟨_, rfl⟩
  have lenient' : Lenient .knownHosts := fun _ => ⟨_, rfl⟩
  refine ⟨Arguments.parse_documents, Arguments.parse_knownHosts, ?_, ?_, ?_, ?_⟩
  · intro documents given plain
    refine load_assign rfl lenient rfl (fun other different => ?_) ?_
    · cases other with
      | documents => exact absurd rfl different
      | runtimeDirectory | defaultSocket | stripAuthority | knownHosts | strictHostKeys => rfl
    · have back : splitPaths (":".intercalate documents) = documents := by
        rw [splitPaths_intercalate given fun path member => (plain path member).2]
        exact List.filter_eq_self.2 fun path member => decide_eq_true (plain path member).1
      rw [supplied_documents given]
      show _ = some (writeTexts (splitPaths (":".intercalate documents)))
      rw [back]
      rfl
  · intro path
    refine load_assign rfl lenient' rfl (fun other different => ?_) rfl
    cases other with
    | knownHosts => exact absurd rfl different
    | documents | runtimeDirectory | defaultSocket | stripAuthority | strictHostKeys => rfl
  · intro documents given raw
    refine ⟨load_assign rfl lenient rfl (fun _ _ => rfl) ?_, fun settings loaded => ?_⟩
    · rw [supplied_documents given, Option.some_or, Option.some_or]
    · have written := written_of_said loaded (supplied_documents given)
      exact (reads_texts.optional nofun).injective written
  · intro path raw
    refine ⟨load_assign rfl lenient' rfl (fun _ _ => rfl) rfl, fun settings loaded => ?_⟩
    have written := written_of_said loaded (supplied_knownHosts path)
    exact (reads_text.optional nofun).injective written

/-- Documents from the variable. -/
example :
    load ({ get? := fun _ => none : Environment }.assign "PODLINK_ENGINE_CONTAINERS_CONF"
        (some "/a.conf:/b.conf")) (Snapshot.files []) { command := .ping } =
      .ok { engine := { documents := some ["/a.conf", "/b.conf"] } } := by
  decide +kernel

end Agreement

end Config

end Gangway
