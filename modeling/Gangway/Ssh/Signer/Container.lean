import Gangway.Cipher.ChaCha
import Gangway.Cipher.Modes
import Gangway.Cipher.PassphraseKey
import Gangway.Curve.Edwards
import Gangway.Ssh.Signer.Basic

/-!
# The container of private keys

A container names a cipher, tells how the cipher's key is made from a passphrase, and holds the
public key and the private section. The section is filled up to whole blocks and opens with a number
written twice, so that a wrong passphrase shows. Without a cipher the section stands in clear.
-/

namespace Gangway.Ssh.Container

open Gangway.Text (Bytes utf8 readUtf8?)
open Gangway.Cipher
open Wire (Reader)

/-- The ciphers of containers. -/
inductive Kind where
  | clear
  /-- A cipher that containers name but that is not opened. -/
  | tripleDes
  | chained (keySize : Nat)
  | counter (keySize : Nat)
  | authenticated (keySize : Nat)
  | chacha
  deriving DecidableEq, Repr

namespace Kind

/-- The ciphers by name. -/
def named : List (String × Kind) :=
  [("none", .clear), ("3des-cbc", .tripleDes),
    ("aes128-cbc", .chained 16), ("aes192-cbc", .chained 24), ("aes256-cbc", .chained 32),
    ("aes128-ctr", .counter 16), ("aes192-ctr", .counter 24), ("aes256-ctr", .counter 32),
    ("aes128-gcm@openssh.com", .authenticated 16), ("aes256-gcm@openssh.com", .authenticated 32),
    ("chacha20-poly1305@openssh.com", .chacha)]

/-- The size of the blocks that the section is filled up to. -/
def block : Kind → Nat
  | .clear | .tripleDes | .chacha => 8
  | .chained _ | .counter _ | .authenticated _ => 16

/-- The bytes of the tag that follows the section. -/
def tagSize : Kind → Nat
  | .authenticated _ | .chacha => 16
  | _ => 0

/-- How many bytes of a passphrase's key the cipher takes. -/
def keyed : Kind → Nat
  | .clear | .tripleDes => 0
  | .chained size | .counter size => size + 16
  | .authenticated size => size + 12
  | .chacha => 44

/-- The section under a passphrase's key, if the cipher can tell that the key is right. -/
def decrypt? (kind : Kind) (material text tag : Bytes) : Option Bytes :=
  match kind with
  | .clear | .tripleDes => none
  | .chained size => some (aesCbc (material.take size) (material.drop size) text)
  | .counter size => some (aesCtr (material.take size) (material.drop size) text)
  | .authenticated size => aesGcm? (material.take size) (material.drop size) text tag
  | .chacha => ChaCha.open? (material.take 32) text tag

end Kind

/-- How the cipher's key is made. -/
inductive Derivation where
  | absent
  | costly (salt : Bytes) (rounds : Nat)
  deriving DecidableEq, Repr

/-- What every container begins with. -/
def magic : Bytes := utf8 "openssh-key-v1" ++ [0]

/-- The cipher that is named next. -/
def readKind : Reader Kind := do
  let name ← PublicKey.readName
  match Kind.named.lookup name with
  | some kind => return kind
  | none => failure

/-- How the cipher's key is made. -/
def readDerivation : Reader Derivation := do
  match ← PublicKey.readName with
  | "none" => if (← Wire.length) = 0 then return .absent else failure
  | "bcrypt" =>
    Wire.within do
      let salt ← Wire.string
      let rounds ← Wire.word
      return .costly salt rounds
  | _ => failure

/-- The factor of a private key on a curve. One zero may stand in front of it, and on the largest
curve leading zeros may be left out. -/
def readFactor (curve : Curve) : Reader Bytes := do
  let announced ← Wire.length
  if announced = curve.size + 1 then
    if (← Wire.take 1) ≠ [0] then failure
    Wire.take curve.size
  else if curve = .p521 ∧ announced < curve.size then
    return List.replicate (curve.size - announced) 0 ++ (← Wire.take announced)
  else if announced < curve.size then failure
  else Wire.take curve.size

/-- The secret of a key of a key's algorithm, which follows the public fields. -/
def readSecret (key : PublicKey) : Reader Bytes := do
  match key with
  | .ed25519 shown =>
    let pair ← Wire.within (Wire.take 64)
    let seed := pair.take 32
    if pair.drop 32 = shown ∧ Curve.Edwards.publicKey seed = shown then return seed else failure
  | .ecdsa curve _ => readFactor curve
  | .dsa .. => Wire.mpint
  | .skEcdsa .. | .skEd25519 .. =>
    let _flags ← Wire.take 1
    let handle ← Wire.string
    let _reserved ← Wire.string
    return handle
  | .other .. => Wire.string
  | .rsa .. => failure

/-- The numbers of a private RSA key, in the order in which private sections hold them. -/
def readRsa : Reader (PublicKey × Bytes) := do
  let n ← Wire.mpint
  let e ← Wire.mpint
  let d ← Wire.mpint
  let _inverse ← Wire.mpint
  let _p ← Wire.mpint
  let _q ← Wire.mpint
  return (.rsa e n, d)

/-- The key and its secret. -/
def readKey : Reader (PublicKey × Bytes) := do
  match Algorithm.ofName? (← PublicKey.readName) with
  | none => failure
  | some .rsa => readRsa
  | some algorithm =>
    let key ← PublicKey.readData algorithm
    return (key, ← readSecret key)

/-- A private section in clear, which holds the secret of the public key. -/
def readSection (block : Nat) (key : PublicKey) : Reader Signer := do
  if (← Wire.left) % block ≠ 0 then failure
  if (← Wire.word) ≠ (← Wire.word) then failure
  let (found, secret) ← readKey
  if found ≠ key then failure
  let comment ← Wire.text
  let count ← Wire.left
  let fill ← Wire.take count
  if count < block ∧ fill = (List.range count).map (fun i => UInt8.ofNat (i + 1)) then
    return { key, secret, comment }
  else failure

/-- What a private key is read from: its public key and a section, sealed or in clear. -/
inductive Content where
  | clear (signer : Signer)
  | sealed (kind : Kind) (derivation : Derivation) (key : PublicKey) (text tag : Bytes)
  deriving DecidableEq, Repr

/-- The content of a container. -/
def readContent : Reader Content := do
  if (← Wire.take magic.length) ≠ magic then failure
  let kind ← readKind
  let derivation ← readDerivation
  if (← Wire.word) ≠ 1 then failure
  let key ← Wire.within PublicKey.read
  let text ← Wire.string
  if kind = .clear then
    if derivation ≠ .absent then failure
    match (readSection kind.block key).run text with
    | some (signer, []) => return .clear signer
    | _ => failure
  else
    if text.length % kind.block ≠ 0 then failure
    return .sealed kind derivation key text (← Wire.take kind.tagSize)

/-- The content of the bytes, all of which are the container. -/
def content? (bytes : Bytes) : Option Content :=
  match readContent.run bytes with
  | some (content, []) => some content
  | _ => none

/-- The signer in a sealed section. -/
def unseal? (kind : Kind) (derivation : Derivation) (key : PublicKey)
    (text tag passphrase : Bytes) : Option Signer := do
  let .costly salt rounds := derivation | none
  let material ← passphraseKey? passphrase salt rounds kind.keyed
  let clear ← kind.decrypt? material text tag
  match (readSection kind.block key).run clear with
  | some (signer, []) => some signer
  | _ => none

/-- The signer in a container. The passphrase is consulted for a sealed one only. -/
def signer (bytes : Bytes) (passphrase : Option String) : Except KeyFault Signer :=
  match content? bytes with
  | none => .error .malformed
  | some (.clear signer) => .ok signer
  | some (.sealed kind derivation key text tag) =>
    match passphrase with
    | none => .error .encrypted
    | some phrase =>
      match unseal? kind derivation key text tag (utf8 phrase) with
      | some signer => .ok signer
      | none => .error .malformed

end Gangway.Ssh.Container
