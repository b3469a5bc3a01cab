import Gangway.Curve.Modular
import Gangway.Digest.Words
import Gangway.Ssh.PublicKey

/-!
# ECDSA public keys

The public key of a factor is a multiple of the base point of one of the curves `y² = x³ - 3x + b`
over a prime field. Points are kept in Jacobian coordinates, and the point at infinity has a zero
last one.
-/

namespace Gangway.Curve.Weierstrass

open Gangway.Text (Bytes)
open Gangway.Digest
open Gangway.Ssh (Curve)

/-- The numbers that fix a curve: its prime, the order of its base point, and that point. -/
structure Domain where
  prime : Nat
  order : Nat
  x : Nat
  y : Nat

/-- The numbers of each curve. -/
def domain : Curve → Domain
  | .p256 => {
      prime := Nat.pow 2 256 - Nat.pow 2 224 + Nat.pow 2 192 + Nat.pow 2 96 - 1
      order := 0xFFFFFFFF00000000FFFFFFFFFFFFFFFFBCE6FAADA7179E84F3B9CAC2FC632551
      x := 0x6B17D1F2E12C4247F8BCE6E563A440F277037D812DEB33A0F4A13945D898C296
      y := 0x4FE342E2FE1A7F9B8EE7EB4A7C0F9E162BCE33576B315ECECBB6406837BF51F5 }
  | .p384 => {
      prime := Nat.pow 2 384 - Nat.pow 2 128 - Nat.pow 2 96 + Nat.pow 2 32 - 1
      order := 0xFFFFFFFFFFFFFFFFFFFFFFFFFFFFFFFFFFFFFFFFFFFFFFFFC7634D81F4372DDF581A0DB248B0A77AECEC196ACCC52973
      x := 0xAA87CA22BE8B05378EB1C71EF320AD746E1D3B628BA79B9859F741E082542A385502F25DBF55296C3A545E3872760AB7
      y := 0x3617DE4A96262C6F5D9E98BF9292DC29F8F41DBD289A147CE9DA3113B5F0B8C00A60B1CE1D7E819D7A431D7C90EA0E5F }
  | .p521 => {
      prime := Nat.pow 2 521 - 1
      order := 0x01FFFFFFFFFFFFFFFFFFFFFFFFFFFFFFFFFFFFFFFFFFFFFFFFFFFFFFFFFFFFFFFFFFFA51868783BF2F966B7FCC0148F709A5D03BB5C9B8899C47AEBB6FB71E91386409
      x := 0x00C6858E06B70404E9CD9E3ECB662395B4429C648139053FB521F828AF606B4D3DBAA14B5E77EFE75928FE1DC127A2FFA8DE3348B3C1856A429BF97E7E31C2E5BD66
      y := 0x011839296A789A3BC0045C8A5FB42C7D1BD998F54449579B446817AFBD17273E662C97EE72995EF42640C550B9013FAD0761353C7086A272C24088BE94769FD16650 }

/-- A point in Jacobian coordinates. -/
structure Point where
  x : Nat
  y : Nat
  z : Nat

/-- The point at infinity. -/
def zero : Point := ⟨1, 1, 0⟩

/-- Twice a point. -/
def double (p : Nat) (a : Point) : Point :=
  let delta := a.z * a.z % p
  let gamma := a.y * a.y % p
  let beta := a.x * gamma % p
  let alpha := 3 * (subMod p a.x delta * ((a.x + delta) % p)) % p
  let x := subMod p (alpha * alpha % p) (8 * beta % p)
  let sum := (a.y + a.z) % p
  let z := subMod p (subMod p (sum * sum % p) gamma) delta
  ⟨x, subMod p (alpha * subMod p (4 * beta % p) x % p) (8 * (gamma * gamma % p) % p), z⟩

/-- The sum of two points. -/
def add (p : Nat) (a b : Point) : Point :=
  if a.z = 0 then b
  else if b.z = 0 then a
  else
    let aa := a.z * a.z % p
    let bb := b.z * b.z % p
    let u := a.x * bb % p
    let v := b.x * aa % p
    let s := a.y * b.z % p * bb % p
    let t := b.y * a.z % p * aa % p
    if u = v then if s = t then double p a else zero
    else
      let h := subMod p v u
      let i := 4 * (h * h % p) % p
      let j := h * i % p
      let r := 2 * subMod p t s % p
      let w := u * i % p
      let x := subMod p (subMod p (r * r % p) j) (2 * w % p)
      let z := 2 * (a.z * b.z % p) % p * h % p
      ⟨x, subMod p (r * subMod p w x % p) (2 * s * j % p), z⟩

/-- The multiple of a point, by the bits of the factor. -/
def multiply (p factor : Nat) (a : Point) : Point :=
  if h : factor = 0 then zero
  else
    let half := multiply p (factor / 2) (double p a)
    if factor % 2 = 1 then add p a half else half
termination_by factor

/-- The public key of a factor, which lies between zero and the order. -/
def publicKey? (curve : Curve) (factor : Nat) : Option Bytes :=
  let d := domain curve
  if factor = 0 ∨ d.order ≤ factor then none
  else
    let point := multiply d.prime factor ⟨d.x, d.y, 1⟩
    let inverse := invMod d.prime point.z
    let square := inverse * inverse % d.prime
    let x := point.x * square % d.prime
    let y := point.y * square % d.prime * inverse % d.prime
    some (4 :: bytesBE curve.size x ++ bytesBE curve.size y)

end Gangway.Curve.Weierstrass
