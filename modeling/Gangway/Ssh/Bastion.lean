import Gangway.Engine.Liveness
import Gangway.Ssh.AuthMethods

/-!
# Bastions

How a bastion behaves towards one connection: what comes of dialling it, which hash it advertises for
the signatures of RSA keys, what it replies to each authentication attempt in view of the attempts
before it, and what it does with channels.
-/

namespace Gangway.Ssh

/-- What a bastion replies to an authentication attempt. -/
inductive Reply where
  | accepted
  | refused
  /-- The connection or the protocol fails. -/
  | failed (message : String)
  deriving DecidableEq, Repr

/-- The behaviour of a bastion. Attempts are given with the latest first. -/
structure Bastion where
  /-- The host key that is presented, or why connecting fails. -/
  greeting : Timed (Except String PublicKey)
  /-- How the connection is said to fail when the host key is not accepted. -/
  distrusted : String
  /-- The strongest hash that is advertised for the signatures of RSA keys, if there is one, when it
  is asked for after attempts of a user; or why the connection fails. -/
  signatureHash : (user : String) → (before : List Attempt) →
    Timed (Except String (Option SignatureHash))
  /-- The reply to an attempt of a user after other attempts. -/
  reply : (user : String) → (before : List Attempt) → Attempt → Timed Reply
  /-- Whether a channel to the socket at a path opens; if not, why. -/
  channel : (path : String) → Except String Unit
  /-- What pinging the engine behind the socket at a path gives. -/
  engine : (path : String) → Ping

namespace Bastion

/-- A bastion that cannot be connected to. -/
def unreachable (message : String) : Bastion where
  greeting := .now (.error message)
  distrusted := message
  signatureHash _ _ := .now (.error message)
  reply _ _ _ := .now (.failed message)
  channel _ := .error message
  engine _ := .now (.error (.other message []))

/-- How many milliseconds an attempt is held up by asking for the hash: the first one with an RSA
key waits for the answer, and no other one asks. -/
def heldUp (bastion : Bastion) (user : String) (before : List Attempt) (attempt : Attempt) :
    Option Nat :=
  if attempt.rsaHash?.isSome && (agreedHash? before).isNone then
    match bastion.signatureHash user before with
    | .after time _ => some time
    | .never => none
  else some 0

/-- How many milliseconds the greeting and some attempts take together, each from being held up to
its reply. -/
def elapsed (bastion : Bastion) (user : String) : List Attempt → Option Nat
  | [] =>
    match bastion.greeting with
    | .after time _ => some time
    | .never => none
  | attempt :: before =>
    match bastion.elapsed user before, bastion.heldUp user before attempt,
      bastion.reply user before attempt with
    | some total, some wait, .after time _ => some (total + wait + time)
    | _, _, _ => none

/-- What is advertised when the hash is asked for, if it comes within a limit that runs since the
bastion was dialled. -/
def hashWithin (bastion : Bastion) (limit : Nat) (user : String) (before : List Attempt) :
    Option (Except String (Option SignatureHash)) :=
  match bastion.elapsed user before with
  | some total => (bastion.signatureHash user before).within (limit - total)
  | none => none

/-- The reply to an attempt, if it comes within a limit that runs since the bastion was dialled. -/
def replyWithin (bastion : Bastion) (limit : Nat) (user : String) (before : List Attempt)
    (attempt : Attempt) : Option Reply :=
  match bastion.elapsed user before, bastion.heldUp user before attempt with
  | some total, some wait => (bastion.reply user before attempt).within (limit - (total + wait))
  | _, _ => none

end Bastion

end Gangway.Ssh
