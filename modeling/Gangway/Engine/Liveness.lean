import Gangway.Engine.Classification
import Gangway.Timed

/-!
# Probing whether an engine answers

A probe is one ping, whose answer is waited for within a limit. A blocking probe is refused where
the caller must not be blocked, and fails where the system does not let it wait.
-/

namespace Gangway

/-- What pinging an engine gives, and when. -/
abbrev Ping := Timed (Except ClientError String)

/-- How long a probe waits, in seconds. -/
def livenessSeconds : Nat := 3

/-- What a ping says about the engine at an address. The address only tells which socket has a
problem. -/
def probe (ping : Ping) (address : String) : Except EngineError Unit :=
  match ping.within (1000 * livenessSeconds) with
  | none => .error (.livenessTimeout livenessSeconds)
  | some (.ok _) => .ok ()
  | some (.error error) => .error (error.whenProbing address)

/-- Who makes a blocking call. -/
inductive Caller where
  | blocking
  /-- Someone who is run among other tasks, all of which would be blocked. -/
  | concurrent
  /-- Someone whom the system does not give what is needed to wait for others, for this reason. -/
  | starved (reason : String)
  deriving DecidableEq, Repr

/-- Refuses to block a caller that must not be blocked. -/
def Caller.mayBlock : Caller → Except EngineError Unit
  | .blocking | .starved _ => .ok ()
  | .concurrent =>
    .error (.runtimeCreationFailed
      "synchronous call made from within an async runtime; use the async variant")

/-- Gets what is needed to wait for others, unless the caller must not be blocked. -/
def Caller.allow : Caller → Except EngineError Unit
  | .starved reason => .error (.runtimeCreationFailed reason)
  | caller => caller.mayBlock

/-- A probe by a blocking call. -/
def probeBlocking (caller : Caller) (ping : Ping) (address : String) : Except EngineError Unit := do
  caller.allow
  probe ping address

end Gangway
