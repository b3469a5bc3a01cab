import Gangway.Cipher.Aes

/-!
# Block cipher modes

Decryption of texts of many blocks under AES: with chained blocks, with a counter, and with a
counter and an authentication tag over a polynomial in the field of 2¹²⁸ elements.
-/

namespace Gangway.Cipher

open Gangway.Text (Bytes)
open Gangway.Digest (chunks natOfBytes bytesBE)

/-- Decrypts chained blocks: each block is added to the block of cipher before it. -/
def decryptChained (keys : List Bytes) (vector : Bytes) : List Bytes → Bytes
  | [] => []
  | block :: rest => Aes.add (Aes.decrypt keys block) vector ++ decryptChained keys block rest

/-- Adds the encrypted numbers from the counter on, taken modulo `2 ^ bits` in their last bits. -/
def addCounters (keys : List Bytes) (bits : Nat) (counter : Nat) : List Bytes → Bytes
  | [] => []
  | block :: rest =>
    let high := counter / Nat.pow 2 bits * Nat.pow 2 bits
    let next := high + (counter + 1) % Nat.pow 2 bits
    Aes.add (Aes.encrypt keys (bytesBE 16 counter)) block ++ addCounters keys bits next rest

/-- The text of chained blocks. -/
def aesCbc (key vector text : Bytes) : Bytes :=
  decryptChained (Aes.roundKeys key) vector (chunks 15 text)

/-- The text of blocks under a counter of all sixteen bytes. -/
def aesCtr (key vector text : Bytes) : Bytes :=
  addCounters (Aes.roundKeys key) 128 (natOfBytes vector) (chunks 15 text)

/-- The product of two elements of the field of 2¹²⁸ elements, whose first bit is the constant
term. -/
def fieldTimes (a b : Nat) : Nat :=
  ((List.range 128).foldl (fun (sum, power) i =>
    (if b.testBit (127 - i) then sum ^^^ power else sum,
      if power.testBit 0 then (power >>> 1) ^^^ (0xE1 <<< 120) else power >>> 1)) (0, a)).1

/-- The polynomial of the blocks of a text, the last filled with zeros, at a point. -/
def polynomial (point : Nat) (text : Bytes) : Nat :=
  (chunks 15 text).foldl (fun sum block =>
    fieldTimes (sum ^^^ natOfBytes (block ++ List.replicate (16 - block.length) 0)) point) 0

/-- The text under a counter, if its tag is right. The vector has twelve bytes. -/
def aesGcm? (key vector text tag : Bytes) : Option Bytes :=
  let keys := Aes.roundKeys key
  let point := natOfBytes (Aes.encrypt keys (List.replicate 16 0))
  let start := natOfBytes vector * 0x100000000 + 1
  let sum := polynomial point text
  let digest := fieldTimes (sum ^^^ (8 * text.length)) point
  let expected := Aes.add (Aes.encrypt keys (bytesBE 16 start)) (bytesBE 16 digest)
  if tag = expected then some (addCounters keys 32 (start + 1) (chunks 15 text)) else none

end Gangway.Cipher
