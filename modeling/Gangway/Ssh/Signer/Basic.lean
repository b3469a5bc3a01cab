import Gangway.Ssh.PublicKey

/-!
# Private keys

A signer is a private key as it is loaded from an identity file: the public key that it is offered
under, what only its holder knows, and the comment it is stored with.
-/

namespace Gangway.Ssh

open Gangway.Text (Bytes)

/-- A private key that is offered to a bastion. -/
structure Signer where
  /-- The public half, under which the key is offered. -/
  key : PublicKey
  /-- What only the holder knows: a seed, a factor or a handle. -/
  secret : Bytes
  comment : String
  deriving DecidableEq, Repr

/-- Whether the key is an RSA key, whose signatures need a hash to be chosen. -/
def Signer.isRsa (signer : Signer) : Bool := signer.key.algorithm = .rsa

/-- Why a text gives no private key. -/
inductive KeyFault where
  /-- The key is encrypted, and no passphrase is given. -/
  | encrypted
  /-- The text is no private key, or the passphrase is wrong. -/
  | malformed
  deriving DecidableEq, Repr

/-- The text of a fault. -/
def KeyFault.message : KeyFault → String
  | .encrypted => "the key is encrypted"
  | .malformed => "the key cannot be read"

end Gangway.Ssh
