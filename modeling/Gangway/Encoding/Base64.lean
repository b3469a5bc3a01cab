import Gangway.Text.Utf8

/-!
# Base64

The standard alphabet of capitals, small letters, digits, `+` and `/`, writing with and without
padding, and two readers. `readStrict` takes one canonical text and says at which byte another text
fails; `readGroups` takes padded groups one after the other, as concatenated texts are written.
-/

namespace Gangway.Base64

open Gangway.Text (Bytes)

/-- The symbol of a value below 64. -/
def symbol (value : Nat) : UInt8 :=
  if value < 26 then UInt8.ofNat (value + 65)
  else if value < 52 then UInt8.ofNat (value + 71)
  else if value < 62 then UInt8.ofNat (value - 4)
  else if value = 62 then 43
  else 47

/-- The value of a symbol. -/
def sextet? (s : UInt8) : Option Nat :=
  if 65 ≤ s ∧ s ≤ 90 then some (s.toNat - 65)
  else if 97 ≤ s ∧ s ≤ 122 then some (s.toNat - 71)
  else if 48 ≤ s ∧ s ≤ 57 then some (s.toNat + 4)
  else if s = 43 then some 62
  else if s = 47 then some 63
  else none

/-- The byte `=` that fills the last group. -/
def pad : UInt8 := 61

/-- The padded text of a sequence of bytes. -/
def write : Bytes → Bytes
  | [] => []
  | [a] => [symbol (a.toNat / 4), symbol (a.toNat % 4 * 16), pad, pad]
  | [a, b] =>
    [symbol (a.toNat / 4), symbol (a.toNat % 4 * 16 + b.toNat / 16), symbol (b.toNat % 16 * 4), pad]
  | a :: b :: c :: rest =>
    symbol (a.toNat / 4) :: symbol (a.toNat % 4 * 16 + b.toNat / 16) ::
      symbol (b.toNat % 16 * 4 + c.toNat / 64) :: symbol (c.toNat % 64) :: write rest

/-- The text of a sequence of bytes without its padding. -/
def writeUnpadded (bytes : Bytes) : Bytes := (write bytes).filter (· != pad)

/-- A sequence of symbols as a string. -/
def text (symbols : Bytes) : String := String.ofList (symbols.map fun s => Char.ofNat s.toNat)

/-- Why a text is not canonical base64. -/
inductive Fault where
  /-- The byte at this offset is no symbol, or padding where none may stand. -/
  | symbol (byte : UInt8) (offset : Nat)
  /-- A lone symbol is left over. -/
  | length (count : Nat)
  /-- The last symbol carries bits that belong to no byte. -/
  | lastSymbol (byte : UInt8) (offset : Nat)
  /-- The last group is not filled up to four. -/
  | padding
  deriving DecidableEq, Repr

/-- The text of a fault. -/
def Fault.message : Fault → String
  | .symbol byte offset => s!"Invalid symbol {byte}, offset {offset}."
  | .length count => s!"Invalid input length: {count}"
  | .lastSymbol byte offset => s!"Invalid last symbol {byte}, offset {offset}."
  | .padding => "Invalid padding"

/-- The three bytes of a full group. -/
def group (a b c d : Nat) : Bytes :=
  [UInt8.ofNat (a * 4 + b / 16), UInt8.ofNat (b % 16 * 16 + c / 4), UInt8.ofNat (c % 4 * 64 + d)]

/-- The value of the symbol at an offset. -/
def sextetAt (offset : Nat) (s : UInt8) : Except Fault Nat :=
  match sextet? s with
  | some value => .ok value
  | none => .error (.symbol s offset)

/-- The symbols of the last group in front of its padding, as offset, byte and value. -/
def lastSymbols (offset : Nat) (padAt : Option Nat) (index : Nat) :
    Bytes → Except Fault (List (UInt8 × Nat))
  | [] => .ok []
  | s :: rest =>
    if s = pad then
      if index < 2 then .error (.symbol s (offset + index))
      else lastSymbols offset (padAt <|> some index) (index + 1) rest
    else
      match padAt with
      | some first => .error (.symbol pad (offset + first))
      | none => do
        let value ← sextetAt (offset + index) s
        let more ← lastSymbols offset none (index + 1) rest
        .ok ((s, value) :: more)

/-- Reads the last group, at most four bytes, which begins at the offset. -/
def readLast (offset : Nat) (tail : Bytes) : Except Fault Bytes := do
  let symbols ← lastSymbols offset none 0 tail
  match symbols with
  | [] => if tail.isEmpty then .ok [] else .error (.length offset)
  | [_] => .error (.length (offset + 1))
  | [(_, a), (y, b)] =>
    if tail.length ≠ 4 then .error .padding
    else if b % 16 ≠ 0 then .error (.lastSymbol y (offset + 1))
    else .ok [UInt8.ofNat (a * 4 + b / 16)]
  | [(_, a), (_, b), (z, c)] =>
    if tail.length ≠ 4 then .error .padding
    else if c % 4 ≠ 0 then .error (.lastSymbol z (offset + 2))
    else .ok [UInt8.ofNat (a * 4 + b / 16), UInt8.ofNat (b % 16 * 16 + c / 4)]
  | (_, a) :: (_, b) :: (_, c) :: (_, d) :: _ => .ok (group a b c d)

/-- Reads the groups from the offset on: every group before the last is full. -/
def readFrom (offset : Nat) : Bytes → Except Fault Bytes
  | a :: b :: c :: d :: e :: rest => do
    let w ← sextetAt offset a
    let x ← sextetAt (offset + 1) b
    let y ← sextetAt (offset + 2) c
    let z ← sextetAt (offset + 3) d
    let more ← readFrom (offset + 4) (e :: rest)
    .ok (group w x y z ++ more)
  | tail => readLast offset tail

/-- Reads a canonical padded text. A byte that is no symbol and stands alone after full groups is
named first. -/
def readStrict (symbols : Bytes) : Except Fault Bytes :=
  match symbols.getLast? with
  | some last =>
    if symbols.length % 4 = 1 ∧ last ≠ pad ∧ sextet? last = none then
      .error (.symbol last (symbols.length - 1))
    else readFrom 0 symbols
  | none => .ok []

/-- Reads one group of four, with up to two bytes of padding and no stray bits. -/
def readGroup (a b c d : UInt8) : Option Bytes := do
  let w ← sextet? a
  let x ← sextet? b
  if d = pad then
    if c = pad then
      if x % 16 = 0 then some [UInt8.ofNat (w * 4 + x / 16)] else none
    else
      let y ← sextet? c
      if y % 4 = 0 then some [UInt8.ofNat (w * 4 + x / 16), UInt8.ofNat (x % 16 * 16 + y / 4)]
      else none
  else
    let y ← sextet? c
    let z ← sextet? d
    some (group w x y z)

/-- Reads padded groups, each of which may carry padding. -/
def readGroups : Bytes → Option Bytes
  | [] => some []
  | a :: b :: c :: d :: rest => do
    let bytes ← readGroup a b c d
    let more ← readGroups rest
    some (bytes ++ more)
  | _ => none

theorem sextet?_symbol {value : Nat} (h : value < 64) : sextet? (symbol value) = some value := by
  have all : ∀ v : Fin 64, sextet? (symbol v.val) = some v.val := by decide
  exact all ⟨value, h⟩

theorem symbol_ne_pad {value : Nat} (h : value < 64) : symbol value ≠ pad := by
  have all : ∀ v : Fin 64, symbol v.val ≠ pad := by decide
  exact all ⟨value, h⟩

end Gangway.Base64
