import Gangway.Encoding.Json
import Gangway.Engine.Liveness

/-!
# Socket listeners

What stands behind a unix socket: nobody, one who stays silent, one who hangs up, or an engine that
gives every request the same answer. Each determines what a ping gives.
-/

namespace Gangway

/-- Who listens on a socket. -/
inductive Listener where
  /-- Nobody: connecting is refused. -/
  | closed
  /-- Someone who never answers. -/
  | silent
  /-- Someone who reads the request and closes the connection. -/
  | hangup
  /-- An engine that answers every request with this status and body. -/
  | http (status : Nat) (body : String)
  deriving DecidableEq, Repr

/-- Whether a status is one of success. -/
def isSuccess (status : Nat) : Bool := 100 ≤ status && status < 300

/-- The body that an answer of a status carries; one that says that nothing changed carries none. -/
def carriedBody (status : Nat) (body : String) : String := if status = 304 then "" else body

/-- The error of an answer with a status of failure: its text is the body's message if there is one,
or else the body. A body that ends within a message is an error of its own. -/
def failureOf (status : Nat) (body : String) : ClientError :=
  if body.isEmpty then .response status ""
  else
    match Json.fieldOf "message".toList body.toList with
    | .ok text => .response status (String.ofList text)
    | .error .malformed => .response status body
    | .error .ended => .other "the answer ends within a value" []

/-- What an answer with a status and body makes of a ping. -/
def answerOf (status : Nat) (body : String) : Except ClientError String :=
  if isSuccess status then .ok body else .error (failureOf status (carriedBody status body))

/-- What a ping gives when connecting fails with an I/O error. -/
def unreached (kind : IoKind) : Ping :=
  Timed.now (.error (.other s!"error trying to connect: {kind.text}" [none, some kind]))

/-- What a ping gives when the connection is closed before it is answered. -/
def hungUp : Ping := Timed.now (.error (.other "connection closed before message completed" []))

/-- What pinging a listener gives. -/
def Listener.ping : Listener → Ping
  | .closed => unreached .connectionRefused
  | .silent => .never
  | .hangup => hungUp
  | .http status body => Timed.now (answerOf status body)

/-- The size from which on a path does not fit a socket's address. -/
def socketPathLimit : Nat := 108

/-- What pinging the socket at a path gives, with the listener there, if there is one. -/
def pingAt (path : String) (listener : Option Listener) : Ping :=
  if socketPathLimit ≤ path.utf8ByteSize then unreached .invalidInput
  else
    match listener with
    | some listener => listener.ping
    | none => unreached .connectionRefused

end Gangway
