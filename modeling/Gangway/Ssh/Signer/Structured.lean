import Gangway.Curve.Edwards
import Gangway.Curve.Weierstrass
import Gangway.Encoding.Der
import Gangway.Ssh.Signer.Basic

/-!
# Private keys as structured data

Two structures hold a private key of an elliptic curve: `general?` reads the one for any algorithm,
which names the algorithm beside the key, and `elliptic?` the one that names the curve alone. A
public key that is written along with the private one has to belong to it.
-/

namespace Gangway.Ssh.Structured

open Gangway.Text (Bytes)
open Gangway.Digest (natOfBytes bytesBE)
open Gangway.Curve (Edwards.publicKey Weierstrass.publicKey?)
open Der

/-- The identifier of Ed25519. -/
def ed25519Identifier : Bytes := [43, 101, 112]

/-- The identifier of keys of elliptic curves. -/
def ellipticIdentifier : Bytes := [42, 134, 72, 206, 61, 2, 1]

/-- The identifier of a curve. -/
def curveIdentifier : Curve → Bytes
  | .p256 => [42, 134, 72, 206, 61, 3, 1, 7]
  | .p384 => [43, 129, 4, 0, 34]
  | .p521 => [43, 129, 4, 0, 35]

/-- The curve of an identifier. -/
def curve? (identifier : Bytes) : Option Curve :=
  [Curve.p256, .p384, .p521].find? fun curve => curveIdentifier curve == identifier

/-- The least number of bytes of a factor. -/
def factorMinimum : Nat := 24

/-- The factor of a private key on a curve; leading zeros may be left out. -/
def factor? (curve : Curve) (bytes : Bytes) : Option Nat :=
  if factorMinimum ≤ bytes.length ∧ bytes.length ≤ curve.size then some (natOfBytes bytes)
  else none

/-- A point in the form that leaves out the second coordinate but for its parity. -/
def shortened (curve : Curve) (point : Bytes) : Bytes :=
  match point with
  | [] => []
  | _ :: coordinates =>
    let parity := (coordinates.getLast?.getD 0) % 2
    (2 + parity) :: coordinates.take curve.size

/-- The signer of a factor on a curve. -/
def ellipticSigner? (curve : Curve) (bytes : Bytes) (written : Option Bytes) : Option Signer := do
  let factor ← factor? curve bytes
  let point ← Weierstrass.publicKey? curve factor
  match written with
  | some other => if other ≠ point ∧ other ≠ shortened curve point then none
  | none => pure ()
  return { key := .ecdsa curve point, secret := bytesBE curve.size factor, comment := "" }

/-- An optional numbered element with an element of the given tag within. -/
def numberedInner? (number : UInt8) (tag : Tag) (elements : List Element) :
    Option (Option Bytes × List Element) :=
  match numbered? number elements with
  | (none, rest) => some (none, rest)
  | (some element, rest) => do return (some (← element.inner? tag), rest)

/-- The private key of an elliptic curve. The curve is named within, or known from outside, or
both. -/
def elliptic? (known : Option Curve) (bytes : Bytes) : Option Signer := do
  let elements ← sequence? bytes
  let (version, elements) ← next? .integer elements
  if version ≠ [1] then none
  let (factor, elements) ← next? .octetString elements
  let (named, elements) ← numberedInner? 0 .identifier elements
  let (bits, elements) ← numberedInner? 1 .bitString elements
  if !elements.isEmpty then none
  let written ← bits.mapM wholeBytes?
  let curve ←
    match known, named with
    | some curve, some identifier => if curveIdentifier curve = identifier then some curve else none
    | some curve, none => some curve
    | none, some identifier => curve? identifier
    | none, none => none
  ellipticSigner? curve factor written

/-- The signer of a seed; the seed is an element within its own bytes. -/
def edwardsSigner? (content : Bytes) (written : Option Bytes) : Option Signer :=
  match content with
  | 0x04 :: 0x20 :: seed =>
    if seed.length ≠ 32 then none
    else
      let key := Edwards.publicKey seed
      match written with
      | some other =>
        if other = key then some { key := .ed25519 key, secret := seed, comment := "" } else none
      | none => some { key := .ed25519 key, secret := seed, comment := "" }
  | _ => none

/-- The private key of any algorithm. -/
def general? (bytes : Bytes) : Option Signer := do
  let elements ← sequence? bytes
  let (version, elements) ← next? .integer elements
  if version ≠ [0] ∧ version ≠ [1] then none
  let (algorithm, elements) ← next? .sequence elements
  let (content, elements) ← next? .octetString elements
  let (bits, elements) := numbered? 1 elements
  if !elements.all fun element => element.isNumbered && (element.tag &&& 0x20) != 0 then none
  if (version == [1]) != bits.isSome then none
  let written ← bits.mapM fun element => wholeBytes? element.content
  let (identifier, parameters) ← next? .identifier (← elements? algorithm)
  if identifier = ed25519Identifier then
    if parameters.isEmpty then edwardsSigner? content written else none
  else if identifier = ellipticIdentifier then
    let (named, rest) ← next? .identifier parameters
    if !rest.isEmpty then none
    elliptic? (some (← curve? named)) content
  else none

end Gangway.Ssh.Structured
