import Gangway.Config.Settings
import Gangway.Proofs.Config.Merging
import Gangway.Proofs.Outcomes

/-!
# Settings as leaves

There are six settings, each a leaf of one of two tables. `Settings.written` writes a setting as a
layer would hold it, and reading undoes that. A value that holds a leaf for every setting is read
leaf by leaf (`ofValue_eq_ok_iff`), whatever else it holds.
-/

namespace Gangway

/-- A setting. -/
inductive Setting where
  | documents
  | runtimeDirectory
  | defaultSocket
  | stripAuthority
  | knownHosts
  | strictHostKeys
  deriving DecidableEq, Repr

namespace Setting

open Config (Value)

/-- All settings, in their order. -/
def all : List Setting :=
  [.documents, .runtimeDirectory, .defaultSocket, .stripAuthority, .knownHosts, .strictHostKeys]

theorem mem_all (setting : Setting) : setting ∈ all := by
  cases setting <;> decide

/-- The path at which layers hold a setting. -/
def path : Setting → List String
  | .documents => ["engine", "containers_conf"]
  | .runtimeDirectory => ["engine", "xdg_runtime_dir"]
  | .defaultSocket => ["engine", "default_socket"]
  | .stripAuthority => ["engine", "strip_unix_authority"]
  | .knownHosts => ["ssh", "known_hosts"]
  | .strictHostKeys => ["ssh", "strict_host_keys"]

/-- No setting lies on the way to another one. -/
theorem path_apart (setting other : Setting) :
    setting.path = other.path ∨ Config.Apart setting.path other.path := by
  cases setting <;> cases other <;> decide

theorem path_injective {setting other : Setting} (same : setting.path = other.path) :
    setting = other := by
  revert same
  cases setting <;> cases other <;> decide

/-- The value that a setting has by default. -/
def standard : Setting → Value
  | .documents => .null
  | .runtimeDirectory => .null
  | .defaultSocket => .text standardSocket
  | .stripAuthority => .boolean false
  | .knownHosts => .null
  | .strictHostKeys => .boolean false

/-- The value with the standard socket in place of an empty one. -/
def completed : Setting → Value → Value
  | .defaultSocket, .text content => .text (if content.isEmpty then standardSocket else content)
  | _, value => value

end Setting

namespace Config

/-- The reader reads exactly what is written. -/
def Reads {α : Type} (read : Read α) (write : α → Value) : Prop :=
  ∀ field value content, read field value = .ok content ↔ value = write content

/-- What can be read back is written in a way of its own. -/
theorem Reads.injective {α : Type} {read : Read α} {write : α → Value}
    (reads : Reads read write) : Function.Injective write := by
  intro content other same
  have first : read "" (write content) = .ok content := (reads "" _ content).2 rfl
  have second : read "" (write content) = .ok other := (reads "" _ other).2 same
  exact Except.ok.inj (first.symm.trans second)

theorem reads_text : Reads readText .text := by
  rintro field (_ | _ | _ | _ | _ | _) content <;> simp [readText, mismatch]

theorem reads_flag : Reads readFlag .boolean := by
  rintro field (_ | _ | _ | _ | _ | _) content <;> simp [readFlag, mismatch]

theorem mapM_readText_eq_ok_iff {field : String} {items : List Value} {texts : List String} :
    items.mapM (readText field) = .ok texts ↔ items = texts.map .text := by
  induction items generalizing texts with
  | nil => cases texts <;> simp [pure, Except.pure]
  | cons item rest ih =>
    simp only [List.mapM_cons, bind_eq_ok_iff, ih, reads_text field item]
    constructor
    · rintro ⟨content, rfl, more, rfl, ⟨⟩⟩
      rfl
    · intro same
      cases texts with
      | nil => cases same
      | cons content more =>
        obtain ⟨rfl, rfl⟩ := List.cons.inj same
        exact ⟨content, rfl, more, rfl, rfl⟩

/-- A list of texts as a layer holds it. -/
def writeTexts (texts : List String) : Value := .list (texts.map .text)

theorem reads_texts : Reads readTexts writeTexts := by
  rintro field (_ | _ | _ | _ | items | _) content <;>
    simp [readTexts, mismatch, writeTexts, mapM_readText_eq_ok_iff]

/-- What may be unset as a layer holds it. -/
def writeOptional {α : Type} (write : α → Value) : Option α → Value
  | none => .null
  | some content => write content

theorem Reads.optional {α : Type} {read : Read α} {write : α → Value} (reads : Reads read write)
    (set : ∀ content, write content ≠ .null) : Reads (readOptional read) (writeOptional write) := by
  intro field value content
  by_cases unset : value = .null
  · subst unset
    cases content with
    | none => exact ⟨fun _ => rfl, fun _ => rfl⟩
    | some content => exact ⟨nofun, fun same => absurd same.symm (set content)⟩
  · have step : readOptional read field value = (read field value).map some := by
      cases value with
      | null => exact absurd rfl unset
      | boolean | number | text | list | table => rfl
    rw [step]
    cases content with
    | none =>
      refine ⟨fun done => ?_, fun same => absurd same unset⟩
      cases given : read field value <;> rw [given] at done <;> cases done
    | some content =>
      rw [writeOptional, ← reads field value content]
      cases read field value <;> simp [Except.map]

end Config

namespace Settings

open Config

/-- A setting as a layer would hold it. -/
def written (settings : Settings) : Setting → Value
  | .documents => writeOptional writeTexts settings.engine.documents
  | .runtimeDirectory => writeOptional .text settings.engine.runtimeDirectory
  | .defaultSocket => .text settings.engine.defaultSocket
  | .stripAuthority => .boolean settings.engine.stripAuthority
  | .knownHosts => writeOptional .text settings.ssh.knownHosts
  | .strictHostKeys => .boolean settings.ssh.strictHostKeys

theorem written_completed (settings : Settings) (setting : Setting) :
    settings.completed.written setting = setting.completed (settings.written setting) := by
  unfold completed
  cases setting <;> split <;> simp_all [written, Setting.completed]

theorem defaultSocket_completed_ne (settings : Settings) :
    settings.completed.engine.defaultSocket ≠ "" := by
  unfold completed
  split
  case isTrue =>
    change standardSocket ≠ ""
    decide
  case isFalse filled => exact fun empty => filled (by rw [empty]; rfl)

/-- The settings of six leaves. -/
def ofLeaves (leaf : Setting → Value) : Except SettingFault Settings := do
  let documents ← readOptional readTexts "containers_conf" (leaf .documents)
  let runtimeDirectory ← readOptional readText "xdg_runtime_dir" (leaf .runtimeDirectory)
  let defaultSocket ← readText "default_socket" (leaf .defaultSocket)
  let stripAuthority ← readFlag "strip_unix_authority" (leaf .stripAuthority)
  let knownHosts ← readOptional readText "known_hosts" (leaf .knownHosts)
  let strictHostKeys ← readFlag "strict_host_keys" (leaf .strictHostKeys)
  return completed
    { engine := { documents, runtimeDirectory, defaultSocket, stripAuthority }
      ssh := { knownHosts, strictHostKeys } }

/-- Leaves are read exactly if they are those of some settings, which are then completed. -/
theorem ofLeaves_eq_ok_iff {leaf : Setting → Value} {settings : Settings} :
    ofLeaves leaf = .ok settings ↔
      ∃ raw : Settings, (∀ setting, raw.written setting = leaf setting) ∧
        raw.completed = settings := by
  have texts : Reads (readOptional readTexts) (writeOptional writeTexts) :=
    reads_texts.optional nofun
  have text : Reads (readOptional readText) (writeOptional .text) := reads_text.optional nofun
  simp only [ofLeaves, bind_eq_ok_iff, texts _ _ _, text _ _ _, reads_text _ _ _, reads_flag _ _ _]
  constructor
  · rintro ⟨documents, leaf1, runtime, leaf2, socket, leaf3, strip, leaf4, store, leaf5, strict,
      leaf6, ⟨⟩⟩
    refine ⟨_, fun setting => ?_, rfl⟩
    cases setting with
    | documents => exact leaf1.symm
    | runtimeDirectory => exact leaf2.symm
    | defaultSocket => exact leaf3.symm
    | stripAuthority => exact leaf4.symm
    | knownHosts => exact leaf5.symm
    | strictHostKeys => exact leaf6.symm
  · rintro ⟨raw, same, rfl⟩
    exact ⟨_, (same .documents).symm, _, (same .runtimeDirectory).symm, _,
      (same .defaultSocket).symm, _, (same .stripAuthority).symm, _, (same .knownHosts).symm, _,
      (same .strictHostKeys).symm, rfl⟩

end Settings

namespace Config

theorem valueAt?_pair {table key : String} {entries inner : Entries}
    (upper : entries.lookup table = some (.table inner)) :
    valueAt? [table, key] (.table entries) = inner.lookup key := by
  rw [valueAt?_cons, upper, Option.bind_some, valueAt?_cons]
  cases inner.lookup key <;> rfl

/-- What stands at a path of two keys stands in a table. -/
theorem exists_of_valueAt?_pair {table key : String} {value leaf : Value}
    (found : valueAt? [table, key] value = some leaf) :
    ∃ entries inner, value = .table entries ∧ entries.lookup table = some (.table inner) := by
  cases value with
  | table entries =>
    rw [valueAt?_cons] at found
    obtain ⟨middle, upper, found⟩ := Option.bind_eq_some_iff.1 found
    cases middle with
    | table inner => exact ⟨entries, inner, rfl, upper⟩
    | null | boolean | number | text | list => cases found
  | null | boolean | number | text | list => cases found

end Config

namespace Settings

open Config

/-- Settings that are read from a value are completed. -/
theorem exists_completed_of_ofValue {value : Value} {settings : Settings}
    (read : ofValue value = .ok settings) : ∃ raw : Settings, raw.completed = settings := by
  unfold ofValue at read
  obtain ⟨fields, -, read⟩ := bind_eq_ok_iff.1 read
  split at read
  · obtain ⟨engine, -, read⟩ := bind_eq_ok_iff.1 read
    obtain ⟨ssh, -, ⟨⟩⟩ := bind_eq_ok_iff.1 read
    exact ⟨_, rfl⟩
  · cases read

/-- A value that holds a leaf for every setting is read leaf by leaf. -/
theorem ofValue_eq_ofLeaves {value : Value} {leaf : Setting → Value}
    (found : ∀ setting : Setting, valueAt? setting.path value = some (leaf setting)) :
    ofValue value = ofLeaves leaf := by
  obtain ⟨entries, engine, rfl, upper⟩ := exists_of_valueAt?_pair (found .documents)
  obtain ⟨_, ssh, ⟨⟩, lower⟩ := exists_of_valueAt?_pair (found .knownHosts)
  have documents := (valueAt?_pair upper).symm.trans (found .documents)
  have runtimeDirectory := (valueAt?_pair upper).symm.trans (found .runtimeDirectory)
  have defaultSocket := (valueAt?_pair upper).symm.trans (found .defaultSocket)
  have stripAuthority := (valueAt?_pair upper).symm.trans (found .stripAuthority)
  have knownHosts := (valueAt?_pair lower).symm.trans (found .knownHosts)
  have strictHostKeys := (valueAt?_pair lower).symm.trans (found .strictHostKeys)
  have engineOf : readEngine "engine" (.table engine) = do
      let documents ← readOptional readTexts "containers_conf" (leaf .documents)
      let runtimeDirectory ← readOptional readText "xdg_runtime_dir" (leaf .runtimeDirectory)
      let defaultSocket ← readText "default_socket" (leaf .defaultSocket)
      let stripAuthority ← readFlag "strip_unix_authority" (leaf .stripAuthority)
      return { documents, runtimeDirectory, defaultSocket, stripAuthority } := by
    simp only [readEngine, readFields, List.map, documents, runtimeDirectory, defaultSocket,
      stripAuthority]
    rfl
  have sshOf : readSsh "ssh" (.table ssh) = do
      let knownHosts ← readOptional readText "known_hosts" (leaf .knownHosts)
      let strictHostKeys ← readFlag "strict_host_keys" (leaf .strictHostKeys)
      return { knownHosts, strictHostKeys } := by
    simp only [readSsh, readFields, List.map, knownHosts, strictHostKeys]
    rfl
  have whole : ofValue (.table entries) = do
      let engine ← readEngine "engine" (.table engine)
      let ssh ← readSsh "ssh" (.table ssh)
      return completed { engine, ssh } := by
    simp only [ofValue, readFields, List.map, upper, lower]
    rfl
  rw [whole, engineOf, sshOf]
  simp only [ofLeaves, bind_assoc, pure_bind]

end Settings

end Gangway
