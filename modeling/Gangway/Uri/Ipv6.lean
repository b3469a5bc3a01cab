import Gangway.Encoding.Hex
import Gangway.Text.Cut

/-!
# IPv6 addresses

An address is eight groups of sixteen bits. In its text one run of zero groups may be left out as
`::`, and the last two groups may be written as an IPv4 address. The standard text leaves out the
first longest run of at least two zero groups, and writes mapped IPv4 addresses with dots.
-/

namespace Gangway.Uri

open Gangway.Text (pieces splitOnce)

/-- The eight groups of an address. -/
structure Ipv6 where
  groups : List Nat
  deriving DecidableEq, Repr

namespace Ipv6

/-- A group of one to four hexadecimal digits. -/
def group? (text : List Char) : Option Nat :=
  if 1 ≤ text.length ∧ text.length ≤ 4 then Hex.number? text else none

/-- One of the four numbers of an IPv4 address: decimal, at most 255, without leading zeros. -/
def byte? (text : List Char) : Option Nat :=
  if text.isEmpty || !text.all (fun c => '0' ≤ c && c ≤ '9') ||
      (text.length > 1 && text.head? = some '0')
  then none
  else
    let n := text.foldl (fun n c => n * 10 + (c.toNat - 48)) 0
    if n ≤ 255 then some n else none

/-- The two groups of an IPv4 address. -/
def mapped? (text : List Char) : Option (List Nat) :=
  match (pieces '.' text).mapM byte? with
  | some [a, b, c, d] => some [a * 256 + b, c * 256 + d]
  | _ => none

/-- The groups of a text without `::`; the last may be an IPv4 address where that is allowed. -/
def groups? (dots : Bool) : List (List Char) → Option (List Nat)
  | [] => some []
  | [last] =>
    if dots && last.contains '.' then mapped? last else (group? last).map fun g => [g]
  | first :: rest => do
    let g ← group? first
    let more ← groups? dots rest
    some (g :: more)

/-- The groups between colons; an empty text has none. -/
def side? (dots : Bool) (text : List Char) : Option (List Nat) :=
  if text.isEmpty then some [] else groups? dots (pieces ':' text)

/-- The address of a text. -/
def parse? (text : List Char) : Option Ipv6 :=
  match splitOnce [':', ':'] text with
  | none => do
    let groups ← side? true text
    if groups.length = 8 then some ⟨groups⟩ else none
  | some (before, after) => do
    let front ← side? false before
    let back ← side? true after
    let count := front.length + back.length
    if count ≤ 7 then some ⟨front ++ List.replicate (8 - count) 0 ++ back⟩ else none

/-- The start and length of the first longest run of zeros from the given index on. -/
def longestRun (index : Nat) (best current : Nat × Nat) : List Nat → Nat × Nat
  | [] => best
  | g :: rest =>
    if g = 0 then
      let current := if current.2 = 0 then (index, 1) else (current.1, current.2 + 1)
      longestRun (index + 1) (if current.2 > best.2 then current else best) current rest
    else longestRun (index + 1) best (0, 0) rest

/-- Groups with colons between them. -/
def colons (groups : List Nat) : String :=
  ":".intercalate (groups.map fun g => String.ofList (Nat.toDigits 16 g))

/-- The standard text of the address. -/
def text (address : Ipv6) : String :=
  match address.groups with
  | [0, 0, 0, 0, 0, 0xFFFF, g, h] =>
    s!"::ffff:{g / 256}.{g % 256}.{h / 256}.{h % 256}"
  | groups =>
    let (start, length) := longestRun 0 (0, 0) (0, 0) groups
    if length > 1 then
      colons (groups.take start) ++ "::" ++ colons (groups.drop (start + length))
    else colons groups

end Ipv6

end Gangway.Uri
