import Gangway.Ssh.Signer.Load
import Gangway.Text.Quoted

/-!
# Authentication methods

What is offered to a bastion, in order: keys, of which no two have the same fingerprint, and then a
password. When there is neither, the method `none` is offered alone. An attempt is a method as it is
offered: an RSA key signs with a hash that the bastion is first asked for, once for all such keys.
-/

namespace Gangway.Ssh

/-- The methods that are offered to a bastion. -/
structure AuthMethods where
  /-- The keys, in the order in which they are offered. -/
  keys : List Signer := []
  password : Option String := none
  deriving DecidableEq, Repr

/-- One thing to offer to a bastion. -/
inductive Method where
  | key (signer : Signer)
  | password (text : String)
  | none
  deriving DecidableEq, Repr

/-- The SHA-2 hashes that RSA keys sign with. Without one they sign with SHA-1. -/
inductive SignatureHash where
  | sha256
  | sha512
  deriving DecidableEq, Repr

/-- A method as it is offered. -/
inductive Attempt where
  /-- A key, with the hash that it signs with if it is an RSA key. -/
  | key (signer : Signer) (hash : Option SignatureHash)
  | password (text : String)
  | none
  deriving DecidableEq, Repr

namespace Attempt

/-- What is offered. -/
def method : Attempt → Method
  | .key signer _ => .key signer
  | .password text => .password text
  | .none => .none

/-- The hash of an attempt with an RSA key. -/
def rsaHash? : Attempt → Option (Option SignatureHash)
  | .key signer hash => if signer.isRsa then some hash else Option.none
  | .password _ | .none => Option.none

end Attempt

/-- What RSA keys sign with after these attempts, if the bastion has been asked for it. -/
def agreedHash? (before : List Attempt) : Option (Option SignatureHash) :=
  before.findSome? Attempt.rsaHash?

namespace AuthMethods

/-- The fingerprints of the keys. -/
def fingerprints (methods : AuthMethods) : List String := methods.keys.map (·.key.fingerprint)

/-- Whether a key with the signer's fingerprint is there. -/
def holds (methods : AuthMethods) (signer : Signer) : Bool :=
  methods.fingerprints.contains signer.key.fingerprint

/-- The methods with a key at the end, unless one with its fingerprint is there. -/
def push (methods : AuthMethods) (signer : Signer) : AuthMethods :=
  if methods.holds signer then methods else { methods with keys := methods.keys ++ [signer] }

/-- Pushes a key: the methods after it, and whether it was added. -/
def pushKey (methods : AuthMethods) (signer : Signer) : AuthMethods × Bool :=
  (methods.push signer, !methods.holds signer)

/-- The methods with the keys of identity files at the end, given how identities are loaded. The
first that does not load fails all. -/
def pushAll (load : String → Except SshError Signer) (methods : AuthMethods) :
    List String → Except SshError AuthMethods
  | [] => .ok methods
  | identity :: rest =>
    match load identity with
    | .error error => .error error
    | .ok signer => pushAll load (methods.push signer) rest

/-- The methods of identity files and a password; an empty password is none. -/
def resolve (files : Files) (identities : List String) (passphrase password : Option String) :
    Except SshError AuthMethods := do
  let methods ← pushAll (Signer.load files · passphrase) {} identities
  return { methods with password := password.filter (!·.isEmpty) }

/-- Whether neither keys nor a password are there. -/
def isEmpty (methods : AuthMethods) : Bool := methods.keys.isEmpty && methods.password.isNone

/-- What is offered, in order. -/
def offers (methods : AuthMethods) : List Method :=
  if methods.isEmpty then [.none]
  else methods.keys.map .key ++ (methods.password.map .password).toList

/-- The text of the methods for diagnostics: keys are shown by fingerprint, and a password as
present. -/
def debug (methods : AuthMethods) : String :=
  Text.record "AuthMethods"
    [("keys", Text.bracketed (methods.fingerprints.map Text.quoted)),
      ("password", Text.redacted methods.password.isSome)] true

end AuthMethods

end Gangway.Ssh
