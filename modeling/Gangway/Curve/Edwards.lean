import Gangway.Curve.Modular
import Gangway.Digest.Sha512

/-!
# Ed25519 public keys

The public key of a seed is a multiple of the base point of a twisted Edwards curve, written as its
second coordinate with the sign of the first. Points are kept in extended coordinates `(x, y, z, t)`
with `t` the product of `x` and `y` over `z`.
-/

namespace Gangway.Curve.Edwards

open Gangway.Text (Bytes)
open Gangway.Digest

/-- The prime of the field. -/
def prime : Nat := Nat.pow 2 255 - 19

/-- The constant of the curve. -/
def constant : Nat :=
  37095705934669439343138083508754565189542113879843219016388785533085940283555

/-- A point in extended coordinates. -/
structure Point where
  x : Nat
  y : Nat
  z : Nat
  t : Nat

/-- The neutral point. -/
def zero : Point := ⟨0, 1, 1, 0⟩

/-- The base point. -/
def base : Point :=
  let x := 15112221349535400772501151409588531511454012693041857206046113283949847762202
  let y := 46316835694926478169428394003475163141307993866256225615783033603165251855960
  ⟨x, y, 1, x * y % prime⟩

/-- The sum of two points. -/
def add (p q : Point) : Point :=
  let a := subMod prime p.y p.x * subMod prime q.y q.x % prime
  let b := (p.y + p.x) * (q.y + q.x) % prime
  let c := 2 * constant * p.t % prime * q.t % prime
  let d := 2 * p.z * q.z % prime
  let e := subMod prime b a
  let f := subMod prime d c
  let g := d + c
  let h := b + a
  ⟨e * f % prime, g * h % prime, f * g % prime, e * h % prime⟩

/-- The multiple of a point, by the bits of the factor. -/
def multiply (factor : Nat) (p : Point) : Point :=
  if h : factor = 0 then zero
  else
    let half := multiply (factor / 2) (add p p)
    if factor % 2 = 1 then add p half else half
termination_by factor

/-- The point as it is written. -/
def Point.bytes (p : Point) : Bytes :=
  let inverse := invMod prime p.z
  let x := p.x * inverse % prime
  let y := p.y * inverse % prime
  bytesLE 32 (y + x % 2 * Nat.pow 2 255)

/-- The factor of a seed: half of its digest with some bits fixed. -/
def factorOf (seed : Bytes) : Nat :=
  let n := natOfBytesLE ((Sha512.digest seed).take 32)
  n % Nat.pow 2 254 / 8 * 8 + Nat.pow 2 254

/-- The public key of a seed. -/
def publicKey (seed : Bytes) : Bytes := (multiply (factorOf seed) base).bytes

end Gangway.Curve.Edwards
