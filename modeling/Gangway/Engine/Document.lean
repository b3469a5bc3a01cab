import Gangway.Engine.Destinations
import Gangway.Error
import Gangway.Files.Basic

/-!
# Documents

A `containers.conf` document is read from a file. One that is missing, unreadable or malformed
counts as absent when addresses are resolved.
-/

namespace Gangway

namespace EngineConfig

/-- The configuration of a document. -/
def readDocument (files : Files) (path : String) : Except DocumentError EngineConfig :=
  match files.read path with
  | .error error => .error (.unreadable path error.cause.message)
  | .ok content =>
    match read? content with
    | some config => .ok config
    | none => .error (.malformed path "not a document of destinations")

/-- The configuration of a document, if it can be read. -/
def load? (files : Files) (path : String) : Option EngineConfig :=
  match readDocument files path with
  | .ok config => some config
  | .error _ => none

end EngineConfig

end Gangway
