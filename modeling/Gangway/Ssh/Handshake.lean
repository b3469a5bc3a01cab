import Gangway.Engine.Listener
import Gangway.Ssh.Bastion
import Gangway.Ssh.HostKeyPolicy

/-!
# Handshakes

A handshake dials the bastion, judges the host key that it presents and then offers the
authentication methods one after the other, until one is accepted. Before the first RSA key the
bastion is asked what such keys are to sign with. No method is offered to a bastion whose key is not
accepted. The time for all of this is limited.
-/

namespace Gangway.Ssh

/-- How long a handshake may take, in seconds. -/
def handshakeSeconds : Nat := 5

/-- The algorithms of host keys that are negotiated, in order of preference. -/
def hostKeyAlgorithms : List Algorithm :=
  [.dsa, .ecdsa .p256, .ecdsa .p384, .ecdsa .p521, .ed25519, .rsa]

/-- How offering methods ends. -/
inductive Verdict where
  | accepted
  /-- Every method was refused. -/
  | refused
  | failed (message : String)
  /-- An answer did not come in time. -/
  | late
  deriving DecidableEq, Repr

/-- The attempts that are made, in order, and how they end. -/
structure Authentication where
  attempts : List Attempt
  verdict : Verdict
  deriving DecidableEq, Repr

/-- What the other side of an authentication says. `none` stands for an answer that is late. -/
structure Answers where
  /-- The hash that is advertised for RSA keys when it is asked for after these attempts. -/
  hash : (before : List Attempt) → Option (Except String (Option SignatureHash))
  /-- The reply to an attempt after others. -/
  reply : (before : List Attempt) → Attempt → Option Reply

/-- The answers of a bastion within a limit. -/
def Bastion.answersWithin (bastion : Bastion) (limit : Nat) (user : String) : Answers where
  hash := bastion.hashWithin limit user
  reply := bastion.replyWithin limit user

/-- The attempt that a method is offered by after others, or why it is not offered at all. The first
RSA key has the bastion asked for the hash, and the later ones sign with the same. -/
def prepare (answers : Answers) (before : List Attempt) : Method → Except Verdict Attempt
  | .key signer =>
    if signer.isRsa then
      match agreedHash? before with
      | some hash => .ok (.key signer hash)
      | none =>
        match answers.hash before with
        | some (.ok hash) => .ok (.key signer hash)
        | some (.error message) => .error (.failed message)
        | none => .error .late
    else .ok (.key signer none)
  | .password text => .ok (.password text)
  | .none => .ok .none

/-- Offers methods in order until one is not refused. Attempts are given to the other side with the
latest first. -/
def offer (answers : Answers) (before : List Attempt) : List Method → Authentication
  | [] => ⟨before.reverse, .refused⟩
  | method :: rest =>
    match prepare answers before method with
    | .error verdict => ⟨before.reverse, verdict⟩
    | .ok attempt =>
      match answers.reply before attempt with
      | some .refused => offer answers (attempt :: before) rest
      | some .accepted => ⟨(attempt :: before).reverse, .accepted⟩
      | some (.failed message) => ⟨(attempt :: before).reverse, .failed message⟩
      | none => ⟨(attempt :: before).reverse, .late⟩

/-- Offers all methods to a bastion that answers in time. -/
def authenticate (hash : List Attempt → Except String (Option SignatureHash))
    (reply : List Attempt → Attempt → Reply) (methods : AuthMethods) : Authentication :=
  offer ⟨fun before => some (hash before), fun before attempt => some (reply before attempt)⟩ []
    methods.offers

/-- An authenticated session with a bastion. -/
structure Session where
  /-- The bastion as `host:port`. -/
  host : String
  /-- The path of the engine socket on the bastion. -/
  remotePath : String
  bastion : Bastion

/-- The attempts that a handshake makes and what comes of it. -/
structure Handshake where
  attempts : List Attempt
  outcome : Except SshError Session

namespace Handshake

/-- What a verdict makes of a handshake. -/
def conclude (bastion : Bastion) (params : Params) : Verdict → Except SshError Session
  | .accepted => .ok { host := params.host, remotePath := params.path, bastion }
  | .refused => .error (.authenticationRejected params.host params.user)
  | .failed message => .error (.handshakeFailed params.host message)
  | .late => .error (.handshakeTimeout params.host handshakeSeconds)

/-- A handshake with a bastion. -/
def run (bastion : Bastion) (params : Params) (policy : HostKeyPolicy) (methods : AuthMethods) :
    Handshake :=
  let limit := 1000 * handshakeSeconds
  match bastion.greeting.within limit with
  | none => ⟨[], conclude bastion params .late⟩
  | some (.error message) => ⟨[], conclude bastion params (.failed message)⟩
  | some (.ok key) =>
    if policy.accepts key then
      let authentication := offer (bastion.answersWithin limit params.user) [] methods.offers
      ⟨authentication.attempts, conclude bastion params authentication.verdict⟩
    else ⟨[], conclude bastion params (.failed bastion.distrusted)⟩

end Handshake

/-- What a session is asked for with. -/
structure SessionRequest where
  uri : String
  /-- The account that counts when the URI names no user. -/
  localUser : String
  knownHosts : Option String := none
  strict : Bool := false
  identities : List String := []
  passphrase : Option String := none
  password : Option String := none
  deriving DecidableEq, Repr

namespace Session

/-- A session with the bastion of a URI. All local checks come before the bastion is dialled. -/
def establish (files : Files) (bastion : Params → Bastion) (request : SessionRequest) :
    Except SshError Session := do
  let params ← Params.ofUri request.localUser request.uri "" request.passphrase
  let policy ← HostKeyPolicy.forConnection files params request.knownHosts request.strict
  let methods ← AuthMethods.resolve files request.identities request.passphrase request.password
  (Handshake.run (bastion params) params policy methods).outcome

/-- Opens a channel to the engine socket. -/
def dial (session : Session) : Except SshError Unit :=
  match session.bastion.channel session.remotePath with
  | .ok () => .ok ()
  | .error message => .error (.channelOpenFailed session.remotePath message)

/-- What pinging the engine through the session gives. Where no channel opens, the relay closes the
connection without a word of why. -/
def ping (session : Session) : Ping :=
  match session.dial with
  | .ok () => session.bastion.engine session.remotePath
  | .error _ => hungUp

/-- The text of the session for diagnostics. -/
def debug (session : Session) : String :=
  Text.record "SshTransport"
    [("host", Text.quoted session.host), ("remote_path", Text.quoted session.remotePath)] false

end Session

end Gangway.Ssh
