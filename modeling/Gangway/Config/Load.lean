import Gangway.Config.Arguments
import Gangway.Config.Settings
import Gangway.Config.Variables
import Gangway.Toml.Document

/-!
# Loading the settings

The layers of the settings are, from the lowest: the defaults, one configuration file, the
environment and the command line. The file is the one named on the command line if it exists, else
the first candidate that exists, where candidates whose paths are no text are passed over; if that
file cannot be read, loading fails.
-/

namespace Gangway.Config

/-- The name of the configuration file in a directory of settings. -/
def fileInDirectory : String := "podlink/config.toml"

/-- The name of the configuration file on its own. -/
def dotFile : String := ".podlink.toml"

/-- The variable that names the configuration file. -/
def pathVariable : String := "PODLINK_CONFIG_PATH"

/-- The paths of a list, without the empty ones. -/
def splitOsPaths : OsText → List OsText
  | .text raw => (splitPaths raw).map .text
  | .bytes raw =>
    ((Text.piecesBy (· == 0x3A) raw).filter fun piece => !piece.isEmpty).map OsText.ofBytes

/-- The directories of settings, the most relevant first. -/
def settingsDirectories (environment : Environment) : List OsText :=
  let own := (environment.value? "XDG_CONFIG_HOME").toList
  let shared := ((environment.value? "XDG_CONFIG_DIRS").map splitOsPaths).getD []
  let home := (environment.nonEmptyValue? "HOME").toList.map (·.under ".config")
  own ++ (if shared.isEmpty then [.text "/etc/xdg"] else shared) ++ home

/-- The places of a configuration file, the most relevant first. -/
def candidates (environment : Environment) : List OsText :=
  (environment.nonEmptyValue? pathVariable).toList ++
    (settingsDirectories environment).flatMap (fun directory =>
      [directory.under fileInDirectory, directory.under dotFile]) ++
    (environment.nonEmptyValue? "HOME").toList.map (·.under dotFile) ++
    [.text dotFile]

/-- The first of some paths that leads to something and is a text. -/
def firstText? (files : Files) (paths : List OsText) : Option String :=
  (paths.filter files.presentAt).findSome? OsText.text?

/-- The configuration file: the one named if it exists, else the first candidate that does and is a
text. -/
def chosenFile (environment : Environment) (files : Files) (named : Option String) :
    Option String :=
  match named.filter files.present with
  | some path => some path
  | none => firstText? files (candidates environment)

/-- The layer of a configuration file. -/
def fileLayer (files : Files) (path : String) : Except ConfigError Value :=
  match files.read path with
  | .error (.directory cause) =>
    .error (.file s!"failed to open directory {Path.directoryOf path}: {cause.message}")
  | .error (.file cause) => .error (.file s!"failed to read {path}: {cause.message}")
  | .ok content =>
    match (Toml.readDocument content).bind ofTomlEntries with
    | some entries => .ok (.table entries)
    | none => .error (.malformed path "not a document of settings")

/-- The layer of the command line; without options for settings there is none. -/
def argumentLayer (arguments : Arguments) : Option Value :=
  let entries :=
    if arguments.documents.isEmpty then []
    else insertAt (.list (arguments.documents.map .text)) ["engine", "containers_conf"] []
  let entries :=
    match arguments.knownHosts with
    | some path => insertAt (.text path) ["ssh", "known_hosts"] entries
    | none => entries
  if entries.isEmpty then none else some (.table entries)

/-- The layer of the configuration file, if there is one. -/
def chosenLayer (environment : Environment) (files : Files) (named : Option String) :
    Except ConfigError (Option Value) :=
  match chosenFile environment files named with
  | some path => (fileLayer files path).map some
  | none => .ok none

/-- The settings of a run. A faulty file is reported before a faulty variable. -/
def load (environment : Environment) (files : Files) (arguments : Arguments) :
    Except ConfigError Settings := do
  let file ← chosenLayer environment files arguments.config
  let own ← variableLayer settingVariables environment
  let layers := file.toList ++ own.toList ++ (argumentLayer arguments).toList
  match Settings.ofLayers layers with
  | .ok settings => return settings
  | .error fault => throw (.merged fault)

end Gangway.Config
