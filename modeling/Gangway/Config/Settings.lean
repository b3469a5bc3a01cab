import Gangway.Config.Value
import Gangway.Engine.Resolver

/-!
# Settings

What a user can set: where engine addresses are looked for and how bastions are trusted.
`Settings.ofValue` reads the merged layers, in which each setting has its type and a record may be
written as the list of its fields.
-/

namespace Gangway

/-- Where engine addresses are looked for. -/
structure EngineSettings where
  /-- The documents, the least relevant first; unset, the standard ones. -/
  documents : Option (List String) := none
  /-- The runtime directory; unset, the variable's. -/
  runtimeDirectory : Option String := none
  /-- The socket that is probed last. -/
  defaultSocket : String := standardSocket
  /-- Whether the authority of unix URIs from documents is dropped. -/
  stripAuthority : Bool := false
  deriving DecidableEq, Repr

/-- How bastions are trusted. -/
structure SshSettings where
  /-- The trust store; unset, the user's. -/
  knownHosts : Option String := none
  /-- Whether bastions without a trusted key are refused. -/
  strictHostKeys : Bool := false
  deriving DecidableEq, Repr

/-- All settings. -/
structure Settings where
  engine : EngineSettings := {}
  ssh : SshSettings := {}
  deriving DecidableEq, Repr

/-- The options for dialling a bastion. -/
structure SshOptions where
  /-- The trust store that is consulted; without one no key is trusted. -/
  knownHosts : Option String
  /-- Whether hosts without a trusted key are refused. -/
  strictHostKeys : Bool := false
  deriving DecidableEq, Repr

/-- The sources that the settings select. -/
def EngineSettings.sources (settings : EngineSettings) (environment : Environment) : Sources where
  documents := settings.documents.getD (Sources.standardDocuments environment)
  runtimeDirectory := settings.runtimeDirectory
  defaultSocket := settings.defaultSocket
  uriMode := if settings.stripAuthority then .stripAuthority else .verbatim

/-- The options that the settings select. -/
def SshSettings.options (settings : SshSettings) (environment : Environment) : SshOptions where
  knownHosts := settings.knownHosts <|> environment.knownHosts?
  strictHostKeys := settings.strictHostKeys

namespace Config

/-- A reader of the value at a place, given as the field's name. -/
abbrev Read (α : Type) := String → Value → Except SettingFault α

/-- The fault of a value that is not of the type of its field. -/
def mismatch (field expected : String) : Except SettingFault α :=
  .error { field, message := s!"expected {expected}" }

/-- A text. -/
def readText : Read String
  | _, .text content => .ok content
  | field, _ => mismatch field "a string"

/-- A truth value. -/
def readFlag : Read Bool
  | _, .boolean truth => .ok truth
  | field, _ => mismatch field "a boolean"

/-- A list of texts. -/
def readTexts : Read (List String)
  | field, .list items => items.mapM (readText field)
  | field, _ => mismatch field "a list of strings"

/-- A value that may be unset. -/
def readOptional (read : Read α) : Read (Option α)
  | _, .null => .ok none
  | field, value => (read field value).map some

/-- The values of a record's fields: by name from a table, in order from a list of no more items
than fields. -/
def readFields (names : List String) : Read (List (Option Value))
  | _, .table entries => .ok (names.map fun name => entries.lookup name)
  | field, .list items =>
    if items.length ≤ names.length then .ok ((List.range names.length).map fun i => items[i]?)
    else mismatch field "fewer items"
  | field, _ => mismatch field "a table"

/-- The value of a field, or its default where it is left out. -/
def readField (read : Read α) (field : String) (default : α) :
    Option Value → Except SettingFault α
  | some value => read field value
  | none => .ok default

/-- The settings of the engine. -/
def readEngine : Read EngineSettings := fun field value => do
  match ← readFields ["containers_conf", "xdg_runtime_dir", "default_socket",
      "strip_unix_authority"] field value with
  | [documents, runtime, socket, strip] =>
    let documents ← readField (readOptional readTexts) "containers_conf" none documents
    let runtimeDirectory ← readField (readOptional readText) "xdg_runtime_dir" none runtime
    let defaultSocket ← readField readText "default_socket" standardSocket socket
    let stripAuthority ← readField readFlag "strip_unix_authority" false strip
    return { documents, runtimeDirectory, defaultSocket, stripAuthority }
  | _ => mismatch field "a table"

/-- The settings of SSH. -/
def readSsh : Read SshSettings := fun field value => do
  match ← readFields ["known_hosts", "strict_host_keys"] field value with
  | [store, strict] =>
    let knownHosts ← readField (readOptional readText) "known_hosts" none store
    let strictHostKeys ← readField readFlag "strict_host_keys" false strict
    return { knownHosts, strictHostKeys }
  | _ => mismatch field "a table"

end Config

namespace Settings

open Config (Value)

/-- The layer of the defaults. -/
def defaults : Value :=
  .table [
    ("engine", .table [("containers_conf", .null), ("xdg_runtime_dir", .null),
      ("default_socket", .text standardSocket), ("strip_unix_authority", .boolean false)]),
    ("ssh", .table [("known_hosts", .null), ("strict_host_keys", .boolean false)])]

/-- The settings with the standard socket in place of an empty one. -/
def completed (settings : Settings) : Settings :=
  if settings.engine.defaultSocket.isEmpty then
    { settings with engine := { settings.engine with defaultSocket := standardSocket } }
  else settings

/-- The settings of the merged layers. -/
def ofValue (value : Value) : Except SettingFault Settings := do
  match ← Config.readFields ["engine", "ssh"] "settings" value with
  | [engine, ssh] =>
    let engine ← Config.readField Config.readEngine "engine" {} engine
    let ssh ← Config.readField Config.readSsh "ssh" {} ssh
    return completed { engine, ssh }
  | _ => Config.mismatch "settings" "a table"

/-- The settings of layers, the lowest first. -/
def ofLayers (layers : List Value) : Except SettingFault Settings :=
  ofValue (layers.foldl Config.merge defaults)

end Settings

end Gangway
