import Gangway.Text.Utf8

/-!
# Hexadecimal digits

Bytes are written as two small digits each; digits of either case are read.
-/

namespace Gangway.Hex

open Gangway.Text (Bytes)

/-- The value of a hexadecimal digit. -/
def digit? (c : Char) : Option Nat :=
  if '0' ≤ c ∧ c ≤ '9' then some (c.toNat - 48)
  else if 'a' ≤ c ∧ c ≤ 'f' then some (c.toNat - 87)
  else if 'A' ≤ c ∧ c ≤ 'F' then some (c.toNat - 55)
  else none

/-- The small digit of a value below 16. -/
def digit (value : Nat) : Char :=
  if value < 10 then Char.ofNat (value + 48) else Char.ofNat (value + 87)

/-- The capital digit of a value below 16. -/
def capital (value : Nat) : Char :=
  if value < 10 then Char.ofNat (value + 48) else Char.ofNat (value + 55)

/-- The digits of a sequence of bytes, two for each. -/
def write (bytes : Bytes) : List Char :=
  bytes.flatMap fun b => [digit (b.toNat / 16), digit (b.toNat % 16)]

/-- The bytes that the digits stand for, if there are two for each byte. -/
def read? : List Char → Option Bytes
  | [] => some []
  | high :: low :: rest => do
    let h ← digit? high
    let l ← digit? low
    let more ← read? rest
    some (UInt8.ofNat (h * 16 + l) :: more)
  | _ => none

/-- The number that the digits stand for, written from the most significant one on. -/
def number? (digits : List Char) : Option Nat :=
  digits.foldlM (fun n c => (digit? c).map (n * 16 + ·)) 0

end Gangway.Hex
