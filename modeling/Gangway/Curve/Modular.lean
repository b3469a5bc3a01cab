/-!
# Modular arithmetic

Powers and inverses modulo a number, for the fields of the curves.
-/

namespace Gangway.Curve

/-- The power of a number modulo another, by the bits of the exponent. -/
def powMod (modulus base exponent : Nat) : Nat :=
  if h : exponent = 0 then 1 % modulus
  else
    let half := powMod modulus (base * base % modulus) (exponent / 2)
    if exponent % 2 = 1 then base * half % modulus else half
termination_by exponent

/-- The inverse modulo a prime. -/
def invMod (prime a : Nat) : Nat := powMod prime a (prime - 2)

/-- The difference modulo a number of two remainders. -/
def subMod (modulus a b : Nat) : Nat := (a + modulus - b) % modulus

end Gangway.Curve
