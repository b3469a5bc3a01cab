import Gangway.Digest.Words

/-!
# AES

The block cipher on sixteen bytes under keys of 16, 24 or 32 bytes. The substitution of a byte is
its inverse in the field of 256 elements followed by an affine map; tables of it are computed once.
-/

namespace Gangway.Cipher.Aes

open Gangway.Text (Bytes)
open Gangway.Digest (chunks)

/-- The byte times the field's generator `x`. -/
def double (a : UInt8) : UInt8 := (a <<< 1) ^^^ (if a ≥ 0x80 then 0x1B else 0)

/-- The product of two field elements, by the bits of the second. -/
def times (a b : UInt8) : UInt8 :=
  let add (sum power : UInt8) (i : Nat) : UInt8 :=
    if (b >>> UInt8.ofNat i) &&& 1 = 1 then sum ^^^ power else sum
  ((List.range 8).foldl (fun (sum, power) i => (add sum power i, double power)) (0, a)).1

/-- The inverse of a field element, its power of 254; zero is its own. -/
def inverse (a : UInt8) : UInt8 :=
  let square (b : UInt8) : UInt8 := times b b
  let three := times (square a) a
  let fifteen := times (square (square three)) three
  let sixtyThree := times (square (square fifteen)) three
  square (times (square sixtyThree) a)

/-- The byte turned left. -/
def turn (a : UInt8) (count : UInt8) : UInt8 := (a <<< count) ||| (a >>> (8 - count))

/-- The substitution of a byte. -/
def substitute (a : UInt8) : UInt8 :=
  let b := inverse a
  b ^^^ turn b 1 ^^^ turn b 2 ^^^ turn b 3 ^^^ turn b 4 ^^^ 0x63

/-- All substitutions by byte. -/
def substitutes : Array UInt8 := ((List.range 256).map fun i => substitute (UInt8.ofNat i)).toArray

/-- The bytes that substitutions come from, by substitution. -/
def originals : Array UInt8 :=
  (List.range 256).foldl (fun table i =>
    table.setIfInBounds (substitutes.getD i 0).toNat (UInt8.ofNat i)) (Array.replicate 256 0)

/-- The bytes looked up in a table. -/
def lookUp (table : Array UInt8) (bytes : Bytes) : Bytes := bytes.map fun b => table.getD b.toNat 0

/-- Two sequences of bytes added in the field, byte by byte. -/
def add (a b : Bytes) : Bytes := List.zipWith (· ^^^ ·) a b

/-- The words of the key schedule from the last `count` words on, the last word first. -/
def expand (words : Nat) (index : Nat) (constant : UInt8) : Nat → List Bytes → List Bytes
  | 0, made => made
  | count + 1, made =>
    let last := made.headD []
    let old := made.getD (words - 1) []
    let mixed :=
      if index % words = 0 then
        add (lookUp substitutes (last.tail ++ last.take 1)) [constant, 0, 0, 0]
      else if words > 6 ∧ index % words = 4 then lookUp substitutes last
      else last
    expand words (index + 1) (if index % words = 0 then double constant else constant) count
      (add old mixed :: made)

/-- The round keys of a key, in order. -/
def roundKeys (key : Bytes) : List Bytes :=
  let words := key.length / 4
  let made := expand words words 1 (4 * (words + 7) - words) (chunks 3 key).reverse
  (chunks 3 made.reverse).map List.flatten

/-- The four columns of a block with row `r` of it turned left by `r`, or right. -/
def shiftRows (left : Bool) (block : Bytes) : Bytes :=
  let cells := block.toArray
  (List.range 16).map fun i =>
    let column := i / 4
    let row := i % 4
    let from_ := (if left then column + row else column + 4 - row) % 4
    cells.getD (4 * from_ + row) 0

/-- A column times a matrix whose rows are turns of the first. -/
def mixColumn (row : Bytes) (column : Bytes) : Bytes :=
  (List.range 4).map fun i =>
    let turned := row.drop (4 - i) ++ row.take (4 - i)
    (List.zipWith times turned column).foldl (· ^^^ ·) 0

/-- Every column mixed. -/
def mixColumns (row : Bytes) (block : Bytes) : Bytes := (chunks 3 block).flatMap (mixColumn row)

/-- A block in cipher. -/
def encrypt (keys : List Bytes) (block : Bytes) : Bytes :=
  match keys with
  | [] => block
  | first :: rest =>
    let start := add block first
    let middle := rest.dropLast.foldl (fun state key =>
      add (mixColumns [2, 3, 1, 1] (shiftRows true (lookUp substitutes state))) key) start
    add (shiftRows true (lookUp substitutes middle)) (rest.getLast?.getD [])

/-- A block back in clear. -/
def decrypt (keys : List Bytes) (block : Bytes) : Bytes :=
  match keys.reverse with
  | [] => block
  | last :: rest =>
    let start := lookUp originals (shiftRows false (add block last))
    let middle := rest.dropLast.foldl (fun state key =>
      lookUp originals (shiftRows false (mixColumns [14, 11, 13, 9] (add state key)))) start
    add middle (rest.getLast?.getD [])

end Gangway.Cipher.Aes
