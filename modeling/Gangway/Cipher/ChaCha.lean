import Gangway.Digest.Words

/-!
# ChaCha20 and Poly1305

A stream cipher of sixteen words in ten double rounds, and the authenticator that evaluates a text's
blocks as a polynomial modulo 2¹³⁰ - 5.
-/

namespace Gangway.Cipher.ChaCha

open Gangway.Text (Bytes)
open Gangway.Digest (chunks natOfBytesLE bytesLE)

/-- The word turned left. -/
def turn (w : UInt32) (count : UInt32) : UInt32 := (w <<< count) ||| (w >>> (32 - count))

/-- Mixes four words of the state. -/
def quarter (i j k l : Nat) (s : Array UInt32) : Array UInt32 :=
  let a := s.getD i 0 + s.getD j 0
  let d := turn (s.getD l 0 ^^^ a) 16
  let c := s.getD k 0 + d
  let b := turn (s.getD j 0 ^^^ c) 12
  let a := a + b
  let d := turn (d ^^^ a) 8
  let c := c + d
  let b := turn (b ^^^ c) 7
  (((s.setIfInBounds i a).setIfInBounds j b).setIfInBounds k c).setIfInBounds l d

/-- A double round: the columns, then the diagonals. -/
def doubleRound (s : Array UInt32) : Array UInt32 :=
  let s := quarter 3 7 11 15 (quarter 2 6 10 14 (quarter 1 5 9 13 (quarter 0 4 8 12 s)))
  quarter 3 4 9 14 (quarter 2 7 8 13 (quarter 1 6 11 12 (quarter 0 5 10 15 s)))

/-- The words of a sequence of bytes, least significant byte first. -/
def words (bytes : Bytes) : Array UInt32 :=
  ((chunks 3 bytes).map fun word => UInt32.ofNat (natOfBytesLE word)).toArray

/-- The constant words of the state. -/
def constants : Array UInt32 := #[0x61707865, 0x3320646E, 0x79622D32, 0x6B206574]

/-- The 64 bytes of the stream under a key at a count, without a nonce. -/
def block (key : Bytes) (count : Nat) : Bytes :=
  let start := constants ++ words key ++ words (bytesLE 8 count ++ List.replicate 8 0)
  let mixed := (List.range 10).foldl (fun s _ => doubleRound s) start
  (List.zipWith (· + ·) mixed.toList start.toList).flatMap fun w => bytesLE 4 w.toNat

/-- The text with the stream from the count on added to it. -/
def addStream (key : Bytes) (count : Nat) : List Bytes → Bytes
  | [] => []
  | part :: rest =>
    List.zipWith (· ^^^ ·) part (block key count) ++ addStream key (count + 1) rest

/-- The bits of the authenticator's point that are kept. -/
def pointMask : Nat := 0x0FFFFFFC0FFFFFFC0FFFFFFC0FFFFFFF

/-- The authenticator's tag of a text under a key of 32 bytes. -/
def tag (key text : Bytes) : Bytes :=
  let point := natOfBytesLE (key.take 16) &&& pointMask
  let sum := (chunks 15 text).foldl (fun sum part =>
    (sum + natOfBytesLE (part ++ [1])) * point % (Nat.pow 2 130 - 5)) 0
  bytesLE 16 (sum + natOfBytesLE (key.drop 16))

/-- The text of a cipher, if its tag is right: the first block of the stream makes the
authenticator's key and the following ones the text. -/
def open? (key text expected : Bytes) : Option Bytes :=
  if tag ((block key 0).take 32) text = expected then some (addStream key 1 (chunks 63 text))
  else none

end Gangway.Cipher.ChaCha
