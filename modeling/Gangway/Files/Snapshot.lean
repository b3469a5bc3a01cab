import Gangway.Files.Basic

/-!
# Snapshots of a file system

A snapshot keeps what was seen at some paths. It is a file system in which nothing else exists, and
in which reading a path that was seen gives what was read there.
-/

namespace Gangway

/-- What was seen at a path. -/
structure Sighting where
  path : String
  present : Bool
  content : Except ReadError String

/-- What was seen at some paths, the latest sighting first. -/
abbrev Snapshot := List Sighting

namespace Snapshot

/-- What was seen of a path. -/
def at? (snapshot : Snapshot) (path : String) : Option Sighting :=
  snapshot.find? fun seen => seen.path == path

/-- What was seen within a directory. -/
def within? (snapshot : Snapshot) (directory : String) : Option Sighting :=
  snapshot.find? fun seen => Path.directoryOf seen.path == directory

/-- What was seen of a name within a directory. -/
def named? (snapshot : Snapshot) (directory name : String) : Option Sighting :=
  snapshot.find? fun seen =>
    Path.directoryOf seen.path == directory && Path.nameOf seen.path == name

/-- The file system of a snapshot. -/
def files (snapshot : Snapshot) : Files where
  present path := (snapshot.at? path).any (·.present)
  openDirectory directory :=
    match snapshot.within? directory with
    | some ⟨_, _, .error (.directory cause)⟩ => .error cause
    | some _ => .ok ()
    | none => .error .notFound
  readWithin directory name :=
    match snapshot.named? directory name with
    | some ⟨_, _, .ok text⟩ => .ok text
    | some ⟨_, _, .error error⟩ => .error error.cause
    | none => .error .notFound

/-- Reading the one path that was seen gives what was read there. -/
theorem read_files_single (path : String) (present : Bool) (content : Except ReadError String) :
    (files [⟨path, present, content⟩]).read path = content := by
  cases content with
  | ok text => simp [Files.read, files, within?, named?]
  | error error => cases error <;> simp [Files.read, files, within?, named?, ReadError.cause]

end Snapshot

end Gangway
