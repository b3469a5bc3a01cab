/-!
# Errors of engine clients

What a client that speaks to an engine reports when it is set up or when a request fails. An error
may be caused by others, and a cause may be an I/O error, whose kind tells socket problems apart.
-/

namespace Gangway

/-- Kinds of I/O errors. -/
inductive IoKind where
  | notFound
  | permissionDenied
  | connectionRefused
  | connectionReset
  | connectionAborted
  | notConnected
  | addressInUse
  | addressNotAvailable
  | brokenPipe
  | alreadyExists
  | wouldBlock
  | invalidInput
  | invalidData
  | timedOut
  | writeZero
  | interrupted
  | unsupported
  | unexpectedEnd
  | outOfMemory
  | other
  deriving DecidableEq, Repr

/-- The description of a kind. -/
def IoKind.text : IoKind → String
  | .notFound => "entity not found"
  | .permissionDenied => "permission denied"
  | .connectionRefused => "connection refused"
  | .connectionReset => "connection reset"
  | .connectionAborted => "connection aborted"
  | .notConnected => "not connected"
  | .addressInUse => "address in use"
  | .addressNotAvailable => "address not available"
  | .brokenPipe => "broken pipe"
  | .alreadyExists => "entity already exists"
  | .wouldBlock => "operation would block"
  | .invalidInput => "invalid input parameter"
  | .invalidData => "invalid data"
  | .timedOut => "timed out"
  | .writeZero => "write zero"
  | .interrupted => "operation interrupted"
  | .unsupported => "unsupported"
  | .unexpectedEnd => "unexpected end of file"
  | .outOfMemory => "out of memory"
  | .other => "other error"

/-- A cause of an error: the kind of an I/O error, or nothing for any other error. -/
abbrev Cause := Option IoKind

/-- An I/O error. -/
structure IoError where
  kind : IoKind
  /-- Its own text; without one it is described by its kind. -/
  text : Option String := none
  /-- What it was caused by, the nearest cause first. -/
  causes : List Cause := []
  deriving DecidableEq, Repr

/-- The text of an I/O error. -/
def IoError.message (error : IoError) : String := error.text.getD error.kind.text

/-- What an engine client fails with. -/
inductive ClientError where
  /-- There is no socket at the path. -/
  | socketMissing (path : String)
  | io (error : IoError)
  /-- Data that cannot be read, because reading fails underneath. -/
  | unreadable (error : IoError)
  | timeout
  /-- The engine answers with a status of failure. -/
  | response (status : Nat) (text : String)
  | stream (text : String)
  | scheme (uri : String)
  | format
  /-- Any other error, with its causes. -/
  | other (text : String) (causes : List Cause)
  deriving DecidableEq, Repr

namespace ClientError

/-- The text of an error. -/
def message : ClientError → String
  | .socketMissing path => s!"Socket not found: {path}"
  | .io error => error.message
  | .unreadable error => error.message
  | .timeout => "Timeout error"
  | .response status text => s!"Docker responded with status code {status}: {text}"
  | .stream text => s!"Docker stream error: {text}"
  | .scheme uri => s!"URI scheme is not supported: {uri}"
  | .format => "an error occurred when formatting an argument"
  | .other text _ => text

/-- What the error was caused by, the nearest cause first. -/
def causes : ClientError → List Cause
  | .io error => error.causes
  | .unreadable error => error.causes
  | .other _ causes => causes
  | _ => []

/-- The kind of the error itself, if it is an I/O error. -/
def ownKind? : ClientError → Option IoKind
  | .io error => some error.kind
  | _ => none

/-- The kind that tells what went wrong: that of the nearest cause which is an I/O error, or else
the error's own. -/
def kind? (error : ClientError) : Option IoKind :=
  match error.causes.findSome? id with
  | some kind => some kind
  | none => error.ownKind?

end ClientError

end Gangway
