import Gangway.Engine.Listener
import Gangway.Error
import Gangway.Files.Basic

/-!
# Where a relay listens

A relay listens on a socket in a directory of its own, which is made within the directory for
temporary files and goes when the relay does.
-/

namespace Gangway.Ssh.Relay

/-- The variable that names the directory for temporary files. -/
def temporaryVariable : String := "TMPDIR"

/-- The directory for temporary files when no variable names one. -/
def standardTemporary : String := "/tmp"

/-- What the name of a relay's directory begins with. -/
def directoryMark : String := "podlink-"

/-- The name of a relay's socket. -/
def socketName : String := "engine.sock"

/-- The socket of a relay. The directory for temporary files has to be there, and the socket's path
has to fit a socket's address. -/
def place (files : Files) (current temporary suffix : String) : Except SshError String :=
  let parent := Path.under current temporary
  match files.openDirectory parent with
  | .error cause => .error (.relayFailed cause.message)
  | .ok () =>
    let socket := Path.under (Path.under parent (directoryMark ++ suffix)) socketName
    if socketPathLimit ≤ socket.utf8ByteSize then
      .error (.relayFailed "path must be shorter than SUN_LEN")
    else .ok socket

end Gangway.Ssh.Relay
