import Gangway.Digest.Sha256
import Gangway.Encoding.Base64
import Gangway.Ssh.Wire

/-!
# Public keys

A public key is the data of its algorithm. `ofBlob?` reads the wire form, in which bytes after the
key are ignored, and `blob` writes it again; two keys have the same material when their data agree,
and the fingerprint is the SHA-256 digest of the written form.
-/

namespace Gangway.Ssh

open Gangway.Text (Bytes utf8 readUtf8?)

/-- The elliptic curves of ECDSA keys. -/
inductive Curve where
  | p256
  | p384
  | p521
  deriving DecidableEq, Repr

namespace Curve

/-- The curve's name on the wire. -/
def name : Curve → String
  | .p256 => "nistp256"
  | .p384 => "nistp384"
  | .p521 => "nistp521"

/-- The bytes of a coordinate. -/
def size : Curve → Nat
  | .p256 => 32
  | .p384 => 48
  | .p521 => 66

end Curve

/-- The algorithms of keys. -/
inductive Algorithm where
  | dsa
  | ecdsa (curve : Curve)
  | ed25519
  | rsa
  | skEcdsa
  | skEd25519
  /-- An algorithm that is not known but well named. -/
  | other (name : String)
  deriving DecidableEq, Repr

namespace Algorithm

/-- The algorithm's name. -/
def name : Algorithm → String
  | .dsa => "ssh-dss"
  | .ecdsa curve => "ecdsa-sha2-" ++ curve.name
  | .ed25519 => "ssh-ed25519"
  | .rsa => "ssh-rsa"
  | .skEcdsa => "sk-ecdsa-sha2-nistp256@openssh.com"
  | .skEd25519 => "sk-ssh-ed25519@openssh.com"
  | .other name => name

/-- The algorithms that are known. -/
def known : List Algorithm :=
  [.dsa, .ecdsa .p256, .ecdsa .p384, .ecdsa .p521, .ed25519, .rsa, .skEcdsa, .skEd25519]

/-- Whether the name of an unknown algorithm says whose it is: `name@domain` in ASCII. -/
def isExtension (name : String) : Bool :=
  let text := name.toList
  match text.span (· != '@') with
  | (before, _ :: after) =>
    !before.isEmpty && !after.isEmpty && !after.contains '@' && text.all (·.toNat < 0x80)
  | (_, []) => false

/-- The algorithm of a name. The names of RSA signatures stand for RSA keys. -/
def ofName? (name : String) : Option Algorithm :=
  if name = "rsa-sha2-256" ∨ name = "rsa-sha2-512" then some .rsa
  else
    match known.find? (·.name = name) with
    | some algorithm => some algorithm
    | none => if isExtension name then some (.other name) else none

end Algorithm

/-- The longest name of an algorithm. -/
def nameLimit : Nat := 48

/-- The data of a public key. -/
inductive PublicKey where
  | dsa (p q g y : Bytes)
  | ecdsa (curve : Curve) (point : Bytes)
  | ed25519 (key : Bytes)
  | rsa (e n : Bytes)
  | skEcdsa (point : Bytes) (application : String)
  | skEd25519 (key : Bytes) (application : String)
  | other (name : String) (content : Bytes)
  deriving DecidableEq, Repr

namespace PublicKey

open Wire (Reader)

/-- The algorithm of the key. -/
def algorithm : PublicKey → Algorithm
  | .dsa .. => .dsa
  | .ecdsa curve _ => .ecdsa curve
  | .ed25519 _ => .ed25519
  | .rsa .. => .rsa
  | .skEcdsa .. => .skEcdsa
  | .skEd25519 .. => .skEd25519
  | .other name _ => .other name

/-- Whether the bytes are a point of a curve in one of its two forms, by tag and length. -/
def isPoint (curve : Curve) : Bytes → Bool
  | [] => false
  | tag :: rest =>
    ((tag = 2 || tag = 3) && rest.length = curve.size) || (tag = 4 && rest.length = 2 * curve.size)

/-- The name of an algorithm. -/
def readName : Reader String := do
  let bytes ← Wire.string
  if bytes.length > nameLimit then failure
  match readUtf8? bytes with
  | some chars => return String.ofList chars
  | none => failure

/-- The name of a curve and a point of it. -/
def readPoint (curve : Curve) : Reader Bytes := do
  let name ← Wire.string
  if name ≠ utf8 curve.name then failure
  let point ← Wire.string
  if isPoint curve point then return point else failure

/-- The data of a key of an algorithm. -/
def readData : Algorithm → Reader PublicKey
  | .dsa => do
    let p ← Wire.mpint
    let q ← Wire.mpint
    let g ← Wire.mpint
    let y ← Wire.mpint
    return .dsa p q g y
  | .ecdsa curve => do return .ecdsa curve (← readPoint curve)
  | .ed25519 => do return .ed25519 (← Wire.within (Wire.take 32))
  | .rsa => do
    let e ← Wire.mpint
    let n ← Wire.mpint
    return .rsa e n
  | .skEcdsa => do
    let point ← readPoint .p256
    let application ← Wire.text
    return .skEcdsa point application
  | .skEd25519 => do
    let key ← Wire.within (Wire.take 32)
    let application ← Wire.text
    return .skEd25519 key application
  | .other name => do return .other name (← Wire.string)

/-- An algorithm's name and the data of a key of it. -/
def read : Reader PublicKey := do
  match Algorithm.ofName? (← readName) with
  | some algorithm => readData algorithm
  | none => failure

/-- The key of a blob; bytes after it are ignored. -/
def ofBlob? (blob : Bytes) : Option PublicKey := (read.run blob).map (·.1)

/-- The data of the key as it is written. -/
def writeData : PublicKey → Bytes
  | .dsa p q g y => Wire.write p ++ Wire.write q ++ Wire.write g ++ Wire.write y
  | .ecdsa curve point => Wire.write (utf8 curve.name) ++ Wire.write point
  | .ed25519 key => Wire.write key
  | .rsa e n => Wire.write e ++ Wire.write n
  | .skEcdsa point application =>
    Wire.write (utf8 Curve.p256.name) ++ Wire.write point ++ Wire.write (utf8 application)
  | .skEd25519 key application => Wire.write key ++ Wire.write (utf8 application)
  | .other _ content => Wire.write content

/-- The blob of the key. -/
def blob (key : PublicKey) : Bytes := Wire.write (utf8 key.algorithm.name) ++ key.writeData

/-- The fingerprint of the key. -/
def fingerprint (key : PublicKey) : String :=
  "SHA256:" ++ Base64.text (Base64.writeUnpadded (Digest.Sha256.digest key.blob))

/-- The key of a base64 text, as it stands in a trust store. -/
def ofBase64? (text : List Char) : Option PublicKey := do
  ofBlob? (← Base64.readGroups (Text.utf8Chars text))

end PublicKey

end Gangway.Ssh
