import Gangway.OsText

/-!
# File systems as the library sees them

A file is read by opening its directory and then its name within that directory, which nothing may
lead out of. `Files` is what the library asks of a file system; every function on files takes one.
-/

namespace Gangway

/-- What an operation on the file system fails with. -/
inductive OsError where
  | notFound
  | noDevice
  | denied
  | notDirectory
  | isDirectory
  | invalidArgument
  | nameTooLong
  | linkLoop
  /-- The name leads out of the directory it is looked up in. -/
  | outside
  /-- The content is not UTF-8. -/
  | notText
  deriving DecidableEq, Repr

/-- The system's text of an error. -/
def OsError.message : OsError → String
  | .notFound => "No such file or directory (os error 2)"
  | .noDevice => "No such device or address (os error 6)"
  | .denied => "Permission denied (os error 13)"
  | .notDirectory => "Not a directory (os error 20)"
  | .isDirectory => "Is a directory (os error 21)"
  | .invalidArgument => "Invalid argument (os error 22)"
  | .nameTooLong => "File name too long (os error 36)"
  | .linkLoop => "Too many levels of symbolic links (os error 40)"
  | .outside => "a path led outside of the filesystem"
  | .notText => "stream did not contain valid UTF-8"

/-- What the library asks of a file system. -/
structure Files where
  /-- Whether a path leads to something; one that cannot be followed leads to nothing. -/
  present : String → Bool
  /-- Opens a directory to look up names in it. -/
  openDirectory : String → Except OsError Unit
  /-- The text of the file that a name leads to within a directory. -/
  readWithin : (directory name : String) → Except OsError String
  /-- Whether a path that is no text leads to something. -/
  presentBytes : Text.Bytes → Bool := fun _ => false

/-- Why a file was not read: its directory did not open, or the file was not read in it. -/
inductive ReadError where
  | directory (cause : OsError)
  | file (cause : OsError)
  deriving DecidableEq, Repr

/-- What a read failed with. -/
def ReadError.cause : ReadError → OsError
  | .directory cause => cause
  | .file cause => cause

namespace Files

/-- Whether a path leads to something, be it a text or not. -/
def presentAt (files : Files) : OsText → Bool
  | .text path => files.present path
  | .bytes path => files.presentBytes path

/-- The text of a file. -/
def read (files : Files) (path : String) : Except ReadError String :=
  match files.openDirectory (Path.directoryOf path) with
  | .error cause => .error (.directory cause)
  | .ok () =>
    match files.readWithin (Path.directoryOf path) (Path.nameOf path) with
    | .error cause => .error (.file cause)
    | .ok content => .ok content

end Files

end Gangway
