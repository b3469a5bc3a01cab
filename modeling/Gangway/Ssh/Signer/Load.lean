import Gangway.Error
import Gangway.Files.Basic
import Gangway.Ssh.Signer.Armour

/-!
# Loading identities

An identity file is read without a passphrase first, which is only consulted when the key turns out
to be encrypted.
-/

namespace Gangway.Ssh.Signer

/-- How texts are read, each without a passphrase or with one. -/
abbrev Decoder := List Char → Option String → Except KeyFault Signer

/-- The signer that a text holds, given how texts are read: without a passphrase first, with it when
that shows an encrypted key. -/
def decodeWith (decode : Decoder) (path : String) (passphrase : Option String)
    (text : List Char) : Except SshError Signer :=
  match decode text none with
  | .ok signer => .ok signer
  | .error .malformed => .error (.identityParse path KeyFault.malformed.message)
  | .error .encrypted =>
    match passphrase with
    | none => .error (.identityPassphraseRequired path)
    | some phrase =>
      match decode text (some phrase) with
      | .ok signer => .ok signer
      | .error fault => .error (.identityParse path fault.message)

/-- The signer in an identity file, given how texts are read. -/
def loadWith (decode : Decoder) (files : Files) (path : String) (passphrase : Option String) :
    Except SshError Signer :=
  match files.read path with
  | .error fault => .error (.identityUnreadable path fault.cause.message)
  | .ok content => decodeWith decode path passphrase content.toList

/-- The signer in an identity file. -/
def load (files : Files) (path : String) (passphrase : Option String) : Except SshError Signer :=
  loadWith Armour.signer files path passphrase

end Gangway.Ssh.Signer
