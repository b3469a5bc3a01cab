import Gangway.Digest.Words

/-!
# Blowfish

The block cipher on two words whose boxes begin as the binary digits of π and are then replaced by
encryptions under a key, with or without a salt mixed in.
-/

namespace Gangway.Cipher.Blowfish

open Gangway.Text (Bytes)

/-- The sum of the alternating series of the arcus tangent of `1 / n`, scaled up. `power` is the
next power of `1 / n` and `odd` its divisor. -/
def arcTan (squared : Nat) : Nat → Nat → Nat → Bool → Int → Int
  | 0, _, _, _, sum => sum
  | steps + 1, power, odd, positive, sum =>
    let term := Int.ofNat (power / odd)
    arcTan squared steps (power / squared) (odd + 2) (!positive)
      (if positive then sum + term else sum - term)

/-- How many words of π's fraction the boxes take. -/
def wordCount : Nat := 18 + 4 * 256

/-- The fraction of π, as many bits as the boxes take, from Machin's formula with spare bits. -/
def piFraction : Nat :=
  let bits := 32 * wordCount + 64
  let scale := Nat.pow 2 bits
  let fifth := arcTan 25 (bits / 4) (scale / 5) 1 true 0
  let small := arcTan (239 * 239) (bits / 15) (scale / 239) 1 true 0
  ((16 * fifth - 4 * small).toNat - 3 * scale) >>> 64

/-- The words of π's fraction. -/
def piWords : Array UInt32 :=
  ((List.range wordCount).map fun i =>
    UInt32.ofNat (piFraction >>> (32 * (wordCount - 1 - i)) % 0x100000000)).toArray

/-- The round keys and the four boxes, one after the other. -/
structure State where
  keys : Array UInt32
  boxes : Array UInt32

/-- The state before any key. -/
def start : State := ⟨piWords.extract 0 18, piWords.extract 18 wordCount⟩

/-- The boxes' mix of the four bytes of a word. -/
@[inline] def mix (boxes : Array UInt32) (x : UInt32) : UInt32 :=
  let a := boxes.getD (x >>> 24).toNat 0
  let b := boxes.getD (256 + ((x >>> 16) &&& 0xFF).toNat) 0
  let c := boxes.getD (512 + ((x >>> 8) &&& 0xFF).toNat) 0
  let d := boxes.getD (768 + (x &&& 0xFF).toNat) 0
  ((a + b) ^^^ c) + d

/-- The rounds that are left, two at a time; `index` is the next round key. -/
def rounds (keys boxes : Array UInt32) (index : Nat) :
    Nat → UInt32 → UInt32 → UInt32 × UInt32
  | 0, left, right => (right ^^^ keys.getD 17 0, left)
  | count + 1, left, right =>
    let right := right ^^^ mix boxes left ^^^ keys.getD index 0
    let left := left ^^^ mix boxes right ^^^ keys.getD (index + 1) 0
    rounds keys boxes (index + 2) count left right

/-- Two words in cipher. -/
def encipher (keys boxes : Array UInt32) (left right : UInt32) : UInt32 × UInt32 :=
  rounds keys boxes 1 8 (left ^^^ keys.getD 0 0) right

/-- Replaces the round keys from an index on by encryptions, each of the words before it with the
next words of the salt added. -/
def fillKeys (salt : Array UInt32) (boxes : Array UInt32) :
    Nat → Nat → Array UInt32 → UInt32 → UInt32 → Array UInt32 × UInt32 × UInt32
  | 0, _, keys, left, right => (keys, left, right)
  | count + 1, index, keys, left, right =>
    let (left, right) := encipher keys boxes (left ^^^ salt.getD (index % 16) 0)
      (right ^^^ salt.getD ((index + 1) % 16) 0)
    fillKeys salt boxes count (index + 2)
      ((keys.setIfInBounds index left).setIfInBounds (index + 1) right) left right

/-- Replaces the boxes in the same way. -/
def fillBoxes (salt : Array UInt32) (keys : Array UInt32) :
    Nat → Nat → Array UInt32 → UInt32 → UInt32 → Array UInt32
  | 0, _, boxes, _, _ => boxes
  | count + 1, index, boxes, left, right =>
    let (left, right) := encipher keys boxes (left ^^^ salt.getD ((index + 18) % 16) 0)
      (right ^^^ salt.getD ((index + 19) % 16) 0)
    fillBoxes salt keys count (index + 2)
      ((boxes.setIfInBounds index left).setIfInBounds (index + 1) right) left right

/-- The state with the sixteen words of a key mixed in, and the sixteen of a salt. -/
def expand (salt key : Array UInt32) (state : State) : State :=
  let keys := state.keys.mapIdx fun i k => k ^^^ key.getD (i % 16) 0
  let (keys, left, right) := fillKeys salt state.boxes 9 0 keys 0 0
  ⟨keys, fillBoxes salt keys 512 0 state.boxes left right⟩

end Gangway.Cipher.Blowfish
