import Gangway.Files.Snapshot
import Gangway.Program
import Gangway.Ssh.Relay.Place

/-!
# The command line

Looks at the files that a run asks for, runs the program on what was seen, and prints what it
leaves. The program opens no connections of its own: no engine and no bastion answers it here.
-/

open Gangway

/-- The error of an operation on files. -/
def osErrorOf : IO.Error → OsError
  | .noFileOrDirectory .. => .notFound
  | .noSuchThing .. => .noDevice
  | .permissionDenied .. => .denied
  | .inappropriateType .. => .isDirectory
  | .invalidArgument .. => .invalidArgument
  | .userError _ => .notText
  | _ => .notFound

/-- The text that a path leads to, which a link must not lead out of the directory for. -/
def readWithin (directory path : String) : IO (Except OsError String) := do
  let place ← IO.FS.realPath path
  if (directory ++ "/").isPrefixOf place.toString then return .ok (← IO.FS.readFile place)
  else return .error .outside

/-- What an operation gives, or the error that it fails with. -/
def attempt (operation : IO α) : IO (Except OsError α) := do
  match ← operation.toBaseIO with
  | .ok value => return .ok value
  | .error error => return .error (osErrorOf error)

/-- What is seen at a path: whether there is something, and its text. -/
def sight (path : String) : IO Sighting := do
  let directory := Path.directoryOf path
  match ← attempt (IO.FS.realPath directory) with
  | .error cause => return { path, present := false, content := .error (.directory cause) }
  | .ok parent =>
    match ← attempt (readWithin parent.toString (Path.under directory (Path.nameOf path))) with
    | .error cause | .ok (.error cause) =>
      return { path, present := cause != .notFound, content := .error (.file cause) }
    | .ok (.ok text) => return { path, present := true, content := .ok text }

/-- The variables that are read. -/
def variableNames : List String :=
  Config.settingVariables.map (·.name) ++
    [Config.pathVariable, hostVariable, passphraseVariable, runtimeVariable, "HOME",
      "XDG_CONFIG_HOME", "XDG_CONFIG_DIRS", Ssh.Relay.temporaryVariable]

/-- The variables of the process. -/
def readEnvironment : IO Environment := do
  let values ← variableNames.filterMapM fun name => do
    return (← IO.getEnv name).map fun value => (name, value)
  return { get? := fun name => values.lookup name }

/-- A world in which nothing answers. -/
def silence (snapshot : Snapshot) (current temporary : String) : World where
  engine _ := unreached .unsupported
  bastion _ := Ssh.Bastion.unreachable IoKind.unsupported.text
  relay := Ssh.Relay.place snapshot.files current temporary "000000"

/-- Runs the program on what is seen, after looking at what each look before shows to be wanted. -/
def main (arguments : List String) : IO UInt32 := do
  let environment ← readEnvironment
  let current ← IO.currentDir
  let temporary :=
    (environment.get? Ssh.Relay.temporaryVariable).getD Ssh.Relay.standardTemporary
  let localUser := (← IO.getEnv "USER").getD ""
  let surroundingsOf (snapshot : Snapshot) : Program.Surroundings :=
    { environment, files := snapshot.files, localUser
      world := silence snapshot current.toString temporary }
  let mut snapshot : Snapshot := [← sight (Path.under temporary Ssh.Relay.socketName)]
  for _ in [1, 2, 3] do
    for path in Program.wanted (surroundingsOf snapshot) arguments do
      if (snapshot.at? path).isNone then
        snapshot := (← sight path) :: snapshot
  let outcome := Program.run (surroundingsOf snapshot) arguments
  IO.print outcome.output
  (← IO.getStderr).putStr outcome.complaint.text
  return UInt32.ofNat outcome.status
