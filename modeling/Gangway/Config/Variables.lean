import Gangway.Config.Value
import Gangway.Environment
import Gangway.Error
import Gangway.Text.Cut

/-!
# Settings from the environment

Each variable of a table sets one setting, which its kind says how to read. The layer has one leaf
for each variable that is set; a truth value that is spelled wrongly fails at once, the first of the
table first.
-/

namespace Gangway.Config

/-- How the value of a variable is read. -/
inductive VariableKind where
  | text
  /-- `true` or `false`. -/
  | flag
  /-- Paths between colons; empty ones are dropped. -/
  | paths
  deriving DecidableEq, Repr

/-- A variable with the path of the setting it sets. -/
structure Variable where
  name : String
  path : List String
  kind : VariableKind
  deriving DecidableEq, Repr

/-- The variables that set settings. -/
def settingVariables : List Variable := [
  ⟨"PODLINK_ENGINE_CONTAINERS_CONF", ["engine", "containers_conf"], .paths⟩,
  ⟨"PODLINK_ENGINE_XDG_RUNTIME_DIR", ["engine", "xdg_runtime_dir"], .text⟩,
  ⟨"PODLINK_ENGINE_DEFAULT_SOCKET", ["engine", "default_socket"], .text⟩,
  ⟨"PODLINK_ENGINE_STRIP_UNIX_AUTHORITY", ["engine", "strip_unix_authority"], .flag⟩,
  ⟨"PODLINK_SSH_KNOWN_HOSTS", ["ssh", "known_hosts"], .text⟩,
  ⟨"PODLINK_SSH_STRICT_HOST_KEYS", ["ssh", "strict_host_keys"], .flag⟩]

/-- The paths of a list, without the empty ones. -/
def splitPaths (raw : String) : List String :=
  ((Text.pieces ':' raw.toList).filter fun piece => !piece.isEmpty).map String.ofList

/-- The value of a variable's text. -/
def Variable.read (setter : Variable) (raw : String) : Except ConfigError Value :=
  match setter.kind with
  | .text => .ok (.text raw)
  | .flag =>
    if raw = "true" then .ok (.boolean true)
    else if raw = "false" then .ok (.boolean false)
    else
      .error (.invalidValue setter.name s!"expected bool (true/false), got '{raw}'")
  | .paths => .ok (.list ((splitPaths raw).map .text))

/-- The entries with the leaves of the variables of a table that are set. -/
def addVariables (environment : Environment) (entries : Entries) :
    List Variable → Except ConfigError Entries
  | [] => .ok entries
  | setter :: rest =>
    match environment.get? setter.name with
    | none => addVariables environment entries rest
    | some raw =>
      match setter.read raw with
      | .error error => .error error
      | .ok value => addVariables environment (insertAt value setter.path entries) rest

/-- The layer of a table of variables; where none is set there is none. -/
def variableLayer (table : List Variable) (environment : Environment) :
    Except ConfigError (Option Value) := do
  let entries ← addVariables environment [] table
  return if entries.isEmpty then none else some (.table entries)

end Gangway.Config
