import Gangway.OsText

/-!
# Environments

The variables of a process and the directories derived from them: the home directory, the directory
of the user's settings in it, and the trust store of SSH. A variable may be set to bytes that are no
text; such a value is only of use as a path that is not written down.
-/

namespace Gangway

open Text (Bytes)

/-- The surroundings of a process that it reads and never changes. -/
structure Environment where
  /-- The value of a variable, if it is set to a text. -/
  get? : String → Option String
  /-- The home directory of the account, which counts when no variable names one. -/
  accountHome : Option String := none
  /-- The value of a variable, if it is set to bytes that are no text. -/
  bytes? : String → Option Bytes := fun _ => none

namespace Environment

/-- The value of a variable, if it is set. -/
def value? (environment : Environment) (name : String) : Option OsText :=
  match environment.get? name with
  | some text => some (.text text)
  | none => (environment.bytes? name).map .bytes

/-- The texts among the values of variables are those that are looked up as texts. -/
theorem text?_value? (environment : Environment) (name : String) :
    (environment.value? name).bind OsText.text? = environment.get? name := by
  unfold value?
  cases environment.get? name with
  | some text => rfl
  | none => cases environment.bytes? name <;> rfl

theorem get?_congr {environment other : Environment} {name : String}
    (same : other.value? name = environment.value? name) :
    other.get? name = environment.get? name := by
  rw [← text?_value?, same, text?_value?]

/-- The value of a variable that is set to a text and not empty. -/
def nonEmpty? (environment : Environment) (name : String) : Option String :=
  (environment.get? name).filter fun value => !value.isEmpty

/-- The value of a variable that is set and not empty. -/
def nonEmptyValue? (environment : Environment) (name : String) : Option OsText :=
  (environment.value? name).filter fun value => !value.isEmpty

/-- The home directory. -/
def home? (environment : Environment) : Option OsText :=
  match environment.nonEmptyValue? "HOME" with
  | some home => some home
  | none => environment.accountHome.map .text

/-- The directory of the user's settings: `XDG_CONFIG_HOME` when it is an absolute path, else
`.config` in the home directory. -/
def settingsDirectory? (environment : Environment) : Option OsText :=
  match (environment.value? "XDG_CONFIG_HOME").filter OsText.isAbsolute with
  | some directory => some directory
  | none => environment.home?.map (·.under ".config")

/-- The user's trust store of SSH host keys, unless its path cannot be written down. -/
def knownHosts? (environment : Environment) : Option String :=
  (environment.home?.bind OsText.text?).map fun home =>
    Path.under (Path.under home ".ssh") "known_hosts"

end Environment

end Gangway
