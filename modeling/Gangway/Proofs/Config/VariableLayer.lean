import Gangway.Proofs.Config.Dependence
import Gangway.Proofs.Text.Cutting
import Mathlib.Data.List.Perm.Basic
import Mathlib.Data.Set.List

/-!
# The layer of the environment is exact

The variables of a table give a layer whose leaves are those that the variables supply, each at the
path of its variable, or else the fault of the first variable that has one. What a text stands for
is said here without the reader (`Stands`), and what a layer holds by its leaves and the tables on
the way to them (`Holds`). In another order the table gives the same layer, since each variable adds
one leaf and leaves may be added in any order (`variableLayer_perm`).
-/

namespace Gangway.Config

/-! ## What a text stands for -/

/-- A list of paths is cut at its colons, and empty segments are dropped. -/
theorem splitPaths_intercalate {segments : List String} (filled : segments ≠ [])
    (whole : ∀ segment ∈ segments, ':' ∉ segment.toList) :
    splitPaths (":".intercalate segments) = segments.filter (· ≠ "") := by
  have cut : Text.pieces ':' (":".intercalate segments).toList = segments.map String.toList := by
    rw [String.toList_intercalate, Text.pieces_eq_splitOn]
    refine List.splitOn_intercalate ':' (fun piece member => ?_) (by simpa using filled)
    obtain ⟨segment, inside, rfl⟩ := List.mem_map.1 member
    exact whole segment inside
  have back : String.ofList ∘ String.toList = id := funext fun _ => String.ofList_toList
  rw [splitPaths, cut, List.filter_map, List.map_map, back, List.map_id]
  apply List.filter_congr
  intro segment _
  rw [Bool.eq_iff_iff]
  simp

/-- Every text is cut somewhere. -/
theorem exists_segments (raw : String) :
    ∃ segments : List String, segments ≠ [] ∧ ":".intercalate segments = raw ∧
      ∀ segment ∈ segments, ∀ c ∈ segment.toList, c ∈ raw.toList ∧ c ≠ ':' := by
  refine ⟨(Text.pieces ':' raw.toList).map String.ofList, ?_, ?_, ?_⟩
  · exact mt List.map_eq_nil_iff.1 (Text.piecesBy_ne_nil _ _)
  · have back : String.toList ∘ String.ofList = id := funext fun _ => String.toList_ofList
    rw [← String.toList_inj, String.toList_intercalate, List.map_map, back, List.map_id,
      Text.pieces_eq_splitOn]
    exact List.intercalate_splitOn ':'
  · intro segment member c inside
    obtain ⟨piece, cut, rfl⟩ := List.mem_map.1 member
    rw [String.toList_ofList] at inside
    exact (Text.mem_of_mem_piecesBy cut inside).imp_right ne_of_beq_false

/-- The value that a text stands for in a variable of a kind. -/
inductive Stands : VariableKind → String → Value → Prop where
  | text {raw : String} : Stands .text raw (.text raw)
  | yes : Stands .flag "true" (.boolean true)
  | no : Stands .flag "false" (.boolean false)
  | paths {segments : List String} (filled : segments ≠ [])
      (whole : ∀ segment ∈ segments, ':' ∉ segment.toList) :
      Stands .paths (":".intercalate segments) (.list ((segments.filter (· ≠ "")).map .text))

theorem stands_flag_iff {raw : String} {value : Value} :
    Stands .flag raw value ↔
      (if raw = "true" then some (Value.boolean true)
        else if raw = "false" then some (.boolean false) else none) = some value := by
  constructor
  · rintro (_ | _)
    · rfl
    · rfl
  · intro read
    split at read
    · next same =>
      cases read
      exact same ▸ .yes
    split at read
    · next same =>
      cases read
      exact same ▸ .no
    · cases read

theorem stands_text_iff {raw : String} {value : Value} :
    Stands .text raw value ↔ some (Value.text raw) = some value := by
  constructor
  · rintro ⟨⟩
    rfl
  · rintro ⟨⟩
    exact .text

theorem stands_paths_iff {raw : String} {value : Value} :
    Stands .paths raw value ↔ some (writeTexts (splitPaths raw)) = some value := by
  constructor
  · rintro ⟨⟩
    next segments filled whole =>
    rw [splitPaths_intercalate filled whole]
    rfl
  · rintro ⟨⟩
    obtain ⟨segments, filled, rfl, made⟩ := exists_segments raw
    have whole : ∀ segment ∈ segments, ':' ∉ segment.toList :=
      fun segment member inside => (made segment member ':' inside).2 rfl
    rw [splitPaths_intercalate filled whole]
    exact .paths filled whole

theorem stands_iff {setting : Setting} {raw : String} {value : Value} :
    Stands setting.setter.kind raw value ↔ setting.ofText raw = some value := by
  cases setting with
  | documents => exact stands_paths_iff
  | runtimeDirectory | defaultSocket | knownHosts => exact stands_text_iff
  | stripAuthority | strictHostKeys => exact stands_flag_iff

/-! ## Faults -/

/-- The variable of a truth value is set to something else. -/
def Variable.Faulty (setter : Variable) (environment : Environment) (raw : String) : Prop :=
  setter.kind = .flag ∧ environment.get? setter.name = some raw ∧ raw ≠ "true" ∧ raw ≠ "false"

/-- The error that reports a text in place of a truth value. -/
def Variable.error (setter : Variable) (raw : String) : ConfigError :=
  .invalidValue setter.name s!"expected bool (true/false), got '{raw}'"

section Faults

variable {environment other : Environment} {settings : List Setting} {setting : Setting}
  {error : ConfigError} {table : List Variable}

theorem read_eq_error_iff {setter : Variable} {raw : String} :
    setter.read raw = .error error ↔
      (setter.kind = .flag ∧ raw ≠ "true" ∧ raw ≠ "false") ∧ error = setter.error raw := by
  unfold Variable.read Variable.error
  cases setter.kind with
  | text => simp
  | paths => simp
  | flag =>
    dsimp only
    by_cases yes : raw = "true"
    · simp [yes]
    by_cases no : raw = "false"
    · simp [no]
    · simp [yes, no, eq_comm]

theorem fault?_eq_some_iff :
    fault? environment setting = some error ↔
      ∃ raw, setting.setter.Faulty environment raw ∧ error = setting.setter.error raw := by
  have read : fault? environment setting = some error ↔
      ∃ raw, environment.get? setting.variableName = some raw ∧
        setting.setter.read raw = .error error := by
    unfold fault?
    cases environment.get? setting.variableName with
    | none => simp
    | some raw =>
      dsimp only
      cases read : setting.setter.read raw <;> simp [read]
  simp only [read, read_eq_error_iff, Variable.Faulty]
  constructor
  · rintro ⟨raw, found, ⟨flag, different⟩, rfl⟩
    exact ⟨raw, ⟨flag, found, different⟩, rfl⟩
  · rintro ⟨raw, ⟨flag, found, different⟩, rfl⟩
    exact ⟨raw, found, ⟨flag, different⟩, rfl⟩

theorem fault?_eq_none_iff_faulty :
    fault? environment setting = none ↔ ∀ raw, ¬setting.setter.Faulty environment raw := by
  rw [Option.eq_none_iff_forall_ne_some]
  constructor
  · intro clean raw faulty
    exact clean _ (fault?_eq_some_iff.2 ⟨raw, faulty, rfl⟩)
  · intro clean error found
    obtain ⟨raw, faulty, -⟩ := fault?_eq_some_iff.1 found
    exact clean raw faulty

/-- The first variable with a fault is reported. -/
theorem variableLayer_eq_error_iff_first :
    variableLayer (settings.map Setting.setter) environment = .error error ↔
      ∃ before setter after raw, settings.map Setting.setter = before ++ setter :: after ∧
        setter.Faulty environment raw ∧
        (∀ earlier ∈ before, ∀ text, ¬earlier.Faulty environment text) ∧
        error = setter.error raw := by
  rw [variableLayer_map_eq_error_iff, List.findSome?_eq_some_iff]
  constructor
  · rintro ⟨before, setting, after, rfl, found, clean⟩
    obtain ⟨raw, faulty, rfl⟩ := fault?_eq_some_iff.1 found
    refine ⟨_, _, _, raw, List.map_append, faulty, ?_, rfl⟩
    intro earlier member
    obtain ⟨first, inside, rfl⟩ := List.mem_map.1 member
    exact fault?_eq_none_iff_faulty.1 (clean first inside)
  · rintro ⟨before, setter, after, raw, split, faulty, clean, rfl⟩
    obtain ⟨front, rest, rfl, rfl, later⟩ := List.map_eq_append_iff.1 split
    obtain ⟨setting, back, rfl, rfl, rfl⟩ := List.map_eq_cons_iff.1 later
    refine ⟨front, setting, back, rfl, fault?_eq_some_iff.2 ⟨raw, faulty, rfl⟩, ?_⟩
    intro first inside
    exact fault?_eq_none_iff_faulty.2 (clean _ (List.mem_map_of_mem inside))

theorem exists_error_iff :
    (∃ error, variableLayer (settings.map Setting.setter) environment = .error error) ↔
      ∃ setter ∈ settings.map Setting.setter, ∃ raw, setter.Faulty environment raw := by
  simp only [variableLayer_map_eq_error_iff, ← Option.ne_none_iff_exists', ne_eq,
    List.findSome?_eq_none_iff, fault?_eq_none_iff_faulty, not_forall, not_not, List.mem_map,
    exists_prop, exists_exists_and_eq_and]

end Faults

/-! ## The leaves of a table of variables -/

section Leaves

variable {environment other : Environment} {settings : List Setting} {table : List Variable}
  {path : List String} {value held : Value} {entries result : Entries}

/-- What stands somewhere was there before, or stands on the way to a setting that is supplied. -/
theorem exists_supplied_or (layer : Layer (.table entries))
    (added : addVariables environment entries (settings.map Setting.setter) = .ok result)
    (found : valueAt? path (.table result) = some held) :
    (∃ setting ∈ settings, environment.supplied setting ≠ none ∧ path <+: setting.path) ∨
      valueAt? path (.table entries) = some held := by
  have leafy := leafy_environment environment
  induction settings generalizing entries with
  | nil =>
    cases added
    exact .inr found
  | cons setting rest ih =>
    have more := layer.supply (fun value said => (leafy setting value said).1) setting
    rcases ih more (addVariables_cons_of_ok added) with ⟨later, member, given, leads⟩ | before
    · exact .inl ⟨later, List.mem_cons_of_mem setting member, given, leads⟩
    cases said : environment.supplied setting with
    | none =>
      rw [said] at before
      exact .inr before
    | some value =>
      rw [said] at before
      by_cases leads : path <+: setting.path
      · exact .inl ⟨setting, List.mem_cons_self, said ▸ nofun, leads⟩
      · have leaf := (leafy setting value said).2
        have opens := layer.opens setting
        exact .inr (valueAt?_of_outside (path_ne_nil setting) opens leaf leads before)

section Added

variable (added : addVariables environment [] (settings.map Setting.setter) = .ok result)

include added

/-- What stands in a layer with any entries stands on the way to a setting that is supplied. -/
theorem exists_supplied (filled : result ≠ []) (found : valueAt? path (.table result) = some held) :
    ∃ setting ∈ settings, environment.supplied setting ≠ none ∧ path <+: setting.path := by
  cases path with
  | nil =>
    obtain ⟨⟨key, value⟩, rest, rfl⟩ := List.exists_cons_of_ne_nil filled
    have first : valueAt? [key] (.table ((key, value) :: rest)) = some value := by
      rw [valueAt?_cons, lookup_cons_eq_ite, if_pos rfl]
      rfl
    rcases exists_supplied_or .nil added first with ⟨setting, member, given, -⟩ | before
    · exact ⟨setting, member, given, List.nil_prefix⟩
    · cases before
  | cons key path =>
    rcases exists_supplied_or .nil added found with supplied | before
    · exact supplied
    · cases before

theorem valueAt?_added {setting : Setting} (member : setting ∈ settings) :
    valueAt? setting.path (.table result) = environment.supplied setting := by
  obtain ⟨-, leaves⟩ := layer_addVariables .nil added
  rw [leaves, if_pos member, valueAt?_nil, Option.or_none]

/-- A setting is supplied as soon as its variable is set. -/
theorem supplied_eq_none_iff {setting : Setting} (member : setting ∈ settings) :
    environment.supplied setting = none ↔ environment.get? setting.variableName = none := by
  have clean : settings.findSome? (fault? environment) = none := by
    rw [Option.eq_none_iff_forall_ne_some]
    intro error faulty
    cases added.symm.trans ((addVariables_eq_error_iff []).2 faulty)
  have spelled := fault?_eq_none_iff.1 (List.findSome?_eq_none_iff.1 clean setting member)
  unfold Environment.supplied
  cases given : environment.get? setting.variableName with
  | none => exact ⟨fun _ => rfl, fun _ => rfl⟩
  | some raw =>
    obtain ⟨value, read⟩ := spelled raw given
    rw [Option.bind_some, read]
    exact ⟨nofun, nofun⟩

theorem path_eq_or_isTable (filled : result ≠ [])
    (found : valueAt? path (.table result) = some held) :
    ∃ setting ∈ settings, environment.supplied setting ≠ none ∧
      (setting.path = path ∧ environment.supplied setting = some held ∨
        path <+: setting.path ∧ path ≠ setting.path ∧ held.IsTable) := by
  obtain ⟨setting, member, given, rest, whole⟩ := exists_supplied added filled found
  refine ⟨setting, member, given, ?_⟩
  cases rest with
  | nil =>
    rw [List.append_nil] at whole
    rw [whole, valueAt?_added added member] at found
    exact .inl ⟨whole.symm, found⟩
  | cons key rest =>
    obtain ⟨layer, -⟩ := layer_addVariables .nil added
    have opens := layer.opens setting
    rw [← whole] at opens
    refine .inr ⟨⟨_, whole⟩, ?_, opens.isTable found⟩
    rw [← whole]
    simp

end Added

/-- The layer has just the leaves that the variables of a table supply. -/
structure Holds (environment : Environment) (table : List Variable) (layer : Value) : Prop where
  tidy : layer.Tidy
  isTable : layer.IsTable
  /-- At the path of each variable that is set there is the value that its text stands for. -/
  each : ∀ setter ∈ table, ∀ raw, environment.get? setter.name = some raw →
    ∃ value, Stands setter.kind raw value ∧ valueAt? setter.path layer = some value
  /-- There are no other leaves. -/
  leaves : ∀ path value, ¬value.IsTable →
    (valueAt? path layer = some value ↔
      ∃ setter ∈ table, setter.path = path ∧
        ∃ raw, environment.get? setter.name = some raw ∧ Stands setter.kind raw value)
  /-- Tables are only made on the way to a leaf. -/
  tables : ∀ path value, value.IsTable → valueAt? path layer = some value →
    ∃ setter ∈ table, environment.get? setter.name ≠ none ∧
      path <+: setter.path ∧ path ≠ setter.path

theorem holds_of_added
    (added : addVariables environment [] (settings.map Setting.setter) = .ok result)
    (filled : result ≠ []) : Holds environment (settings.map Setting.setter) (.table result) := by
  obtain ⟨layer, -⟩ := layer_addVariables .nil added
  refine ⟨layer.tidy, ⟨result, rfl⟩, ?_, ?_, ?_⟩
  · intro setter inside raw given
    obtain ⟨setting, member, rfl⟩ := List.mem_map.1 inside
    have spelled : environment.supplied setting ≠ none := by
      rw [ne_eq, supplied_eq_none_iff added member]
      exact fun unset => nomatch unset.symm.trans given
    obtain ⟨value, said⟩ := Option.ne_none_iff_exists'.1 spelled
    refine ⟨value, stands_iff.2 ?_, (valueAt?_added added member).trans said⟩
    obtain ⟨raw', given', read⟩ := Option.bind_eq_some_iff.1 said
    cases given.symm.trans given'
    exact read
  · intro path value leaf
    constructor
    · intro found
      obtain ⟨setting, member, -, ⟨rfl, said⟩ | ⟨-, -, isTable⟩⟩ :=
        path_eq_or_isTable added filled found
      · obtain ⟨raw, given, read⟩ := Option.bind_eq_some_iff.1 said
        exact ⟨_, List.mem_map_of_mem member, rfl, raw, given, stands_iff.2 read⟩
      · exact absurd isTable leaf
    · rintro ⟨setter, inside, rfl, raw, given, stands⟩
      obtain ⟨setting, member, rfl⟩ := List.mem_map.1 inside
      show valueAt? setting.path _ = _
      rw [valueAt?_added added member]
      exact Option.bind_eq_some_iff.2 ⟨raw, given, stands_iff.1 stands⟩
  · intro path value isTable found
    obtain ⟨setting, member, given, ⟨-, said⟩ | ⟨leads, different, -⟩⟩ :=
      path_eq_or_isTable added filled found
    · exact absurd isTable (tidy_of_supplied said).2
    · rw [ne_eq, supplied_eq_none_iff added member] at given
      exact ⟨_, List.mem_map_of_mem member, given, leads, different⟩

theorem variableLayer_eq_some_iff {layer : Value} :
    variableLayer table environment = .ok (some layer) ↔
      ∃ result, addVariables environment [] table = .ok result ∧ result ≠ [] ∧
        layer = .table result := by
  constructor
  · intro read
    obtain ⟨entries, added, same⟩ := exists_addVariables read
    cases entries with
    | nil => cases same
    | cons head rest =>
      cases same
      exact ⟨_, added, List.cons_ne_nil _ _, rfl⟩
  · rintro ⟨result, added, filled, rfl⟩
    unfold variableLayer
    rw [added]
    obtain ⟨head, rest, rfl⟩ := List.exists_cons_of_ne_nil filled
    rfl

/-- Variables that are not set add nothing. -/
theorem addVariables_of_unset (unset : ∀ setter ∈ table, environment.get? setter.name = none) :
    addVariables environment entries table = .ok entries := by
  induction table with
  | nil => rfl
  | cons setter rest ih =>
    obtain ⟨here, later⟩ := List.forall_mem_cons.1 unset
    rw [addVariables, here]
    exact ih later

/-- Other variables than those of the table do not count. -/
theorem addVariables_congr
    (same : ∀ setter ∈ table, other.get? setter.name = environment.get? setter.name) :
    addVariables other entries table = addVariables environment entries table := by
  induction table generalizing entries with
  | nil => rfl
  | cons setter rest ih =>
    obtain ⟨here, later⟩ := List.forall_mem_cons.1 same
    simp only [addVariables, here, ih later]

theorem variableLayer_eq_none_iff :
    variableLayer (settings.map Setting.setter) environment = .ok none ↔
      ∀ setter ∈ settings.map Setting.setter, environment.get? setter.name = none := by
  constructor
  · intro read setter inside
    obtain ⟨entries, added, same⟩ := exists_addVariables read
    obtain ⟨setting, member, rfl⟩ := List.mem_map.1 inside
    have empty : entries = [] := by
      cases entries with
      | nil => rfl
      | cons head rest => cases same
    have nothing := valueAt?_added added member
    rw [empty, valueAt?_nil] at nothing
    exact (supplied_eq_none_iff added member).1 nothing.symm
  · intro unset
    unfold variableLayer
    rw [addVariables_of_unset unset]
    rfl

end Leaves

/-! ## The order of the table -/

/-- Outcomes that differ in no more than the order of entries and the fault that is reported. -/
inductive SameOutcome :
    Except ConfigError (Option Value) → Except ConfigError (Option Value) → Prop where
  | failed (error other : ConfigError) : SameOutcome (.error error) (.error other)
  | read {layer other : Option Value} (same : Option.Rel Value.Same layer other) :
      SameOutcome (.ok layer) (.ok other)

section Order

variable {environment : Environment} {settings reordered : List Setting}

theorem eq_nil_of_same {entries : Entries} (same : (Value.table []).Same (.table entries)) :
    entries = [] := by
  cases entries with
  | nil => rfl
  | cons head rest =>
    obtain ⟨key, value⟩ := head
    have child := same.child key
    simp only [child?, List.lookup_nil, lookup_cons_eq_ite, if_true] at child
    cases child

theorem rel_layerOf {entries other : Entries}
    (same : (Value.table entries).Same (.table other)) :
    Option.Rel Value.Same (layerOf entries) (layerOf other) := by
  cases entries with
  | nil =>
    rw [eq_nil_of_same same]
    exact .none
  | cons head rest =>
    cases other with
    | nil => cases eq_nil_of_same same.symm
    | cons head' rest' => exact .some same

/-- The order of a table decides no more than the order of entries and which fault is reported. -/
theorem variableLayer_perm (perm : settings.Perm reordered) :
    SameOutcome (variableLayer (settings.map Setting.setter) environment)
      (variableLayer (reordered.map Setting.setter) environment) := by
  have leafy := leafy_environment environment
  have faults : (∃ error, variableLayer (settings.map Setting.setter) environment = .error error) ↔
      ∃ error, variableLayer (reordered.map Setting.setter) environment = .error error := by
    rw [exists_error_iff, exists_error_iff]
    simp only [(perm.map Setting.setter).mem_iff]
  cases read : variableLayer (settings.map Setting.setter) environment with
  | error error =>
    obtain ⟨error', read'⟩ := faults.1 ⟨error, read⟩
    rw [read']
    exact .failed error error'
  | ok own =>
    cases read' : variableLayer (reordered.map Setting.setter) environment with
    | error error' =>
      obtain ⟨error, failed⟩ := faults.2 ⟨error', read'⟩
      cases read.symm.trans failed
    | ok own' =>
      obtain ⟨entries, added, rfl⟩ := exists_addVariables read
      obtain ⟨entries', added', rfl⟩ := exists_addVariables read'
      -- Laid on nothing, the layers are themselves.
      have laid := merge_addVariables Layer.nil added .null
      have laid' := merge_addVariables Layer.nil added' .null
      exact .read (rel_layerOf (laid.trans ((lay_perm leafy perm).trans laid'.symm)))

theorem setter_injective : Function.Injective Setting.setter :=
  fun _ _ same => Setting.variableName_injective (congrArg Variable.name same)

/-- A table that holds the variables in another order is made of all settings in another order. -/
theorem exists_settings {table : List Variable} (perm : table.Perm settingVariables) :
    ∃ settings : List Setting, settings.Perm Setting.all ∧ table = settings.map Setting.setter := by
  have inside : table ∈ Set.range (List.map Setting.setter) := by
    rw [Set.range_list_map]
    intro setter member
    have given := perm.subset member
    rw [Setting.settingVariables_eq] at given
    obtain ⟨setting, -, same⟩ := List.mem_map.1 given
    exact ⟨setting, same⟩
  obtain ⟨settings, rfl⟩ := inside
  rw [Setting.settingVariables_eq] at perm
  exact ⟨settings, (List.map_perm_map_iff setter_injective).1 perm, rfl⟩

end Order

/-! ## Exactness -/

/-- What comes of a table of variables. -/
structure ExactLayer (environment : Environment) (table : List Variable) : Prop where
  /-- It fails if some truth value is spelled wrongly, and only then. -/
  fails : (∃ error, variableLayer table environment = .error error) ↔
    ∃ setter ∈ table, ∃ raw, setter.Faulty environment raw
  /-- The error names the first such variable of the table. -/
  first : ∀ error, variableLayer table environment = .error error ↔
    ∃ before setter after raw, table = before ++ setter :: after ∧
      setter.Faulty environment raw ∧
      (∀ earlier ∈ before, ∀ text, ¬earlier.Faulty environment text) ∧
      error = .invalidValue setter.name s!"expected bool (true/false), got '{raw}'"
  /-- There is no layer if no variable is set, and only then. -/
  absent : variableLayer table environment = .ok none ↔
    ∀ setter ∈ table, environment.get? setter.name = none
  /-- A layer has a leaf for each variable that is set, and no other leaf. -/
  holds : ∀ layer, variableLayer table environment = .ok (some layer) →
    Holds environment table layer
  /-- A list of paths without a path is empty, but it is there. -/
  blank : ∀ layer, variableLayer table environment = .ok (some layer) →
    ∀ setter ∈ table, setter.kind = .paths → ∀ raw, environment.get? setter.name = some raw →
      (∀ c ∈ raw.toList, c = ':') → valueAt? setter.path layer = some (.list [])
  /-- Variables outside the table have no influence. -/
  others : ∀ other : Environment,
    (∀ setter ∈ table, other.get? setter.name = environment.get? setter.name) →
      variableLayer table other = variableLayer table environment

/-- What comes of the variables, in whatever order they stand in the table, and in loading. -/
structure ExactVariables (environment : Environment) : Prop where
  exact : ∀ table, table.Perm settingVariables → ExactLayer environment table
  /-- Another order changes at most which fault is reported. -/
  reordered : ∀ table, table.Perm settingVariables →
    SameOutcome (variableLayer table environment) (variableLayer settingVariables environment)
  /-- A file that cannot be read is reported, whatever the variables hold. -/
  unreadable : ∀ files arguments path, chosenFile environment files arguments.config = some path →
    ∀ cause, files.read path = .error cause →
      ∃ text, load environment files arguments = .error (.file text)
  /-- So is a file that cannot be parsed. -/
  unparseable : ∀ files arguments path, chosenFile environment files arguments.config = some path →
    ∀ content, files.read path = .ok content →
      (Toml.readDocument content).bind ofTomlEntries = none →
        ∃ reason, load environment files arguments = .error (.malformed path reason)
  /-- With any other file, the variable is reported. -/
  reported : ∀ files arguments file,
    chosenLayer environment files arguments.config = .ok file →
      ∀ error, variableLayer settingVariables environment = .error error →
        load environment files arguments = .error error

section Exactness

variable {environment : Environment}

theorem stands_blank {raw : String} (blank : ∀ c ∈ raw.toList, c = ':') :
    Stands .paths raw (.list []) := by
  obtain ⟨segments, filled, rfl, made⟩ := exists_segments raw
  have empty : ∀ segment ∈ segments, segment = "" := by
    intro segment member
    rw [← String.toList_eq_nil_iff]
    apply List.eq_nil_iff_forall_not_mem.2
    intro c inside
    obtain ⟨whole, different⟩ := made segment member c inside
    exact different (blank c whole)
  have dropped : segments.filter (· ≠ "") = [] := by
    simpa using empty
  have stands : Stands .paths _ (.list ((segments.filter (· ≠ "")).map .text)) :=
    .paths filled fun segment member inside => (made segment member ':' inside).2 rfl
  rwa [dropped] at stands

theorem exactLayer (environment : Environment) (settings : List Setting) :
    ExactLayer environment (settings.map Setting.setter) := by
  have holds : ∀ layer,
      variableLayer (settings.map Setting.setter) environment = .ok (some layer) →
        Holds environment (settings.map Setting.setter) layer := by
    intro layer read
    obtain ⟨result, added, filled, rfl⟩ := variableLayer_eq_some_iff.1 read
    exact holds_of_added added filled
  refine ⟨exists_error_iff, fun error => variableLayer_eq_error_iff_first,
    variableLayer_eq_none_iff, holds, ?_, ?_⟩
  · intro layer read setter member kind raw given blank
    apply ((holds layer read).leaves setter.path (.list []) nofun).2
    exact ⟨setter, member, rfl, raw, given, kind ▸ stands_blank blank⟩
  · intro other same
    unfold variableLayer
    rw [addVariables_congr same]

theorem exists_file_error {files : Files} {path : String} {cause : ReadError}
    (failed : files.read path = .error cause) :
    ∃ text, fileLayer files path = .error (.file text) := by
  unfold fileLayer
  rw [failed]
  cases cause <;> exact ⟨_, rfl⟩

theorem exists_malformed_error {files : Files} {path content : String}
    (read : files.read path = .ok content)
    (malformed : (Toml.readDocument content).bind ofTomlEntries = none) :
    ∃ reason, fileLayer files path = .error (.malformed path reason) := by
  unfold fileLayer
  rw [read]
  dsimp only
  rw [malformed]
  exact ⟨_, rfl⟩

theorem load_of_unread {files : Files} {arguments : Arguments} {path : String}
    {error : ConfigError} (chosen : chosenFile environment files arguments.config = some path)
    (unread : fileLayer files path = .error error) :
    load environment files arguments = .error error := by
  apply load_of_not_chosen
  unfold chosenLayer
  rw [chosen]
  dsimp only
  rw [unread]
  rfl

/-- **Exactness.** For every environment, the variables give a layer with just the leaves that they
supply, or the first fault. -/
theorem variableLayer_exact (environment : Environment) : ExactVariables environment := by
  refine ⟨?_, ?_, ?_, ?_, ?_⟩
  · intro table perm
    obtain ⟨settings, -, rfl⟩ := exists_settings perm
    exact exactLayer environment settings
  · intro table perm
    obtain ⟨settings, order, rfl⟩ := exists_settings perm
    rw [Setting.settingVariables_eq]
    exact variableLayer_perm order
  · intro files arguments path chosen cause failed
    obtain ⟨text, unread⟩ := exists_file_error failed
    exact ⟨text, load_of_unread chosen unread⟩
  · intro files arguments path chosen content read malformed
    obtain ⟨reason, unread⟩ := exists_malformed_error read malformed
    exact ⟨reason, load_of_unread chosen unread⟩
  · intro files arguments file chosen error faulty
    exact load_of_fault chosen (variableLayer_eq_error_iff.1 faulty)

/-- Of two faults the first of the table is reported. -/
example :
    variableLayer settingVariables
        { get? := fun name =>
            if name = "PODLINK_SSH_STRICT_HOST_KEYS" then some "1"
            else if name = "PODLINK_ENGINE_STRIP_UNIX_AUTHORITY" then some "True"
            else some "::" } =
      .error (.invalidValue "PODLINK_ENGINE_STRIP_UNIX_AUTHORITY"
        "expected bool (true/false), got 'True'") := rfl

end Exactness

end Gangway.Config
