/-!
# Punycode

A label of a domain name that begins with `xn--` spells its other characters with letters and
digits. `decode?` gives the characters back: basic ones stand before the last hyphen, and the rest
is a list of insertions, each a number of variable length whose digits adapt to the ones before.
-/

namespace Gangway.Uri.Punycode

/-- The value of a digit in the base 36. -/
def digit? (c : Char) : Option Nat :=
  if 'a' ≤ c ∧ c ≤ 'z' then some (c.toNat - 97)
  else if 'A' ≤ c ∧ c ≤ 'Z' then some (c.toNat - 65)
  else if '0' ≤ c ∧ c ≤ '9' then some (c.toNat - 22)
  else none

/-- Divides until the value is small; counts the divisions in steps of 36. -/
def damp (steps : Nat) (value count : Nat) : Nat :=
  match steps with
  | 0 => count + 36 * value / (value + 38)
  | steps + 1 => if value > 455 then damp steps (value / 35) (count + 36)
      else count + 36 * value / (value + 38)

/-- The bias after an insertion. -/
def adapt (delta points : Nat) (first : Bool) : Nat :=
  let halved := if first then delta / 700 else delta / 2
  damp 64 (halved + halved / points) 0

/-- The threshold of a digit. -/
def threshold (position bias : Nat) : Nat :=
  if position ≤ bias then 1 else if position ≥ bias + 26 then 26 else position - bias

/-- Reads one number and gives it with the digits left. -/
def number? (position weight bias sum : Nat) : List Char → Option (Nat × List Char)
  | [] => none
  | c :: rest => do
    let d ← digit? c
    let sum := sum + d * weight
    let t := threshold position bias
    if sum ≥ 0x100000000 then none
    else if d < t then some (sum, rest)
    else number? (position + 36) (weight * (36 - t)) bias sum rest

/-- Makes the insertions in order; `bound` limits their number. -/
def insertions (bound point index bias : Nat) (text digits : List Char) : Option (List Char) :=
  match bound, digits with
  | _, [] => some text
  | 0, _ => none
  | bound + 1, digits => do
    let (delta, rest) ← number? 36 1 bias 0 digits
    let place := index + delta
    let count := text.length + 1
    let point := point + place / count
    let place := place % count
    if point.isValidChar then
      let text := text.take place ++ Char.ofNat point :: text.drop place
      insertions bound point (place + 1) (adapt delta count (index = 0 && count = 1 || bias = 72))
        text rest
    else none

/-- The characters that a label spells, without its leading `xn--`. -/
def decode? (label : List Char) : Option (List Char) :=
  match label.reverse.span (· != '-') with
  | (tail, _ :: front) => insertions label.length 128 0 72 front.reverse tail.reverse
  | (_, []) => insertions label.length 128 0 72 [] label

end Gangway.Uri.Punycode
