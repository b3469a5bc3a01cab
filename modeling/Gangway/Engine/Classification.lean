import Gangway.Engine.ClientError
import Gangway.Engine.Transport
import Gangway.Error

/-!
# What a client's error means

An error of a client is told as a missing socket or as denied permission where the address has a
socket path and the error says so, in itself or through a cause. Any other error is passed on with
its text.
-/

namespace Gangway.ClientError

/-- What a kind of I/O error means at an address, if that is anything special. -/
def socketProblem? (address : String) (kind : IoKind) : Option EngineError :=
  match kind with
  | .notFound => (unixPath? address).map .socketNotFound
  | .permissionDenied => (unixPath? address).map .permissionDenied
  | _ => none

/-- The problem of the socket that the error tells of, if it tells of one. -/
def problem? (error : ClientError) (address : String) : Option EngineError :=
  match error with
  | .socketMissing _ => socketProblem? address .notFound
  | _ => error.kind?.bind (socketProblem? address)

/-- What an error means when a client is set up. -/
def whenConnecting (error : ClientError) (address : String) : EngineError :=
  (error.problem? address).getD (.connectionFailed error.message)

/-- What an error means when the engine is probed. -/
def whenProbing (error : ClientError) (address : String) : EngineError :=
  (error.problem? address).getD (.livenessCheckFailed error.message)

end Gangway.ClientError
