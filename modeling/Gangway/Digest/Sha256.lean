import Gangway.Digest.Words

/-!
# SHA-256

The 256-bit digest: eight words are carried from block to block through 64 rounds, whose constants
are the first bits of the cube roots of the first 64 primes.
-/

namespace Gangway.Digest.Sha256

open Gangway.Text (Bytes)

/-- The word turned right by `count` bits. -/
def turn (w : UInt32) (count : UInt32) : UInt32 := (w >>> count) ||| (w <<< (32 - count))

/-- The round constants. -/
def constants : Array UInt32 := #[
  0x428A2F98, 0x71374491, 0xB5C0FBCF, 0xE9B5DBA5, 0x3956C25B, 0x59F111F1, 0x923F82A4, 0xAB1C5ED5,
  0xD807AA98, 0x12835B01, 0x243185BE, 0x550C7DC3, 0x72BE5D74, 0x80DEB1FE, 0x9BDC06A7, 0xC19BF174,
  0xE49B69C1, 0xEFBE4786, 0x0FC19DC6, 0x240CA1CC, 0x2DE92C6F, 0x4A7484AA, 0x5CB0A9DC, 0x76F988DA,
  0x983E5152, 0xA831C66D, 0xB00327C8, 0xBF597FC7, 0xC6E00BF3, 0xD5A79147, 0x06CA6351, 0x14292967,
  0x27B70A85, 0x2E1B2138, 0x4D2C6DFC, 0x53380D13, 0x650A7354, 0x766A0ABB, 0x81C2C92E, 0x92722C85,
  0xA2BFE8A1, 0xA81A664B, 0xC24B8B70, 0xC76C51A3, 0xD192E819, 0xD6990624, 0xF40E3585, 0x106AA070,
  0x19A4C116, 0x1E376C08, 0x2748774C, 0x34B0BCB5, 0x391C0CB3, 0x4ED8AA4A, 0x5B9CCA4F, 0x682E6FF3,
  0x748F82EE, 0x78A5636F, 0x84C87814, 0x8CC70208, 0x90BEFFFA, 0xA4506CEB, 0xBEF9A3F7, 0xC67178F2]

/-- The eight words before the first block: the first bits of the square roots of the first
primes. -/
def start : Array UInt32 := #[
  0x6A09E667, 0xBB67AE85, 0x3C6EF372, 0xA54FF53A, 0x510E527F, 0x9B05688C, 0x1F83D9AB, 0x5BE0CD19]

/-- The words that the sixteen words of a block are expanded to, one for each round. -/
def schedule (block : Array UInt32) : Array UInt32 :=
  (List.range 48).foldl (fun w i =>
    let x := w.getD (i + 1) 0
    let y := w.getD (i + 14) 0
    let low := turn x 7 ^^^ turn x 18 ^^^ (x >>> 3)
    let high := turn y 17 ^^^ turn y 19 ^^^ (y >>> 10)
    w.push (w.getD i 0 + low + w.getD (i + 9) 0 + high)) block

/-- The eight working words of a round. -/
structure State where
  a : UInt32
  b : UInt32
  c : UInt32
  d : UInt32
  e : UInt32
  f : UInt32
  g : UInt32
  h : UInt32

/-- One round with its constant and its word of the schedule added up. -/
def round (input : UInt32) (s : State) : State :=
  let first := s.h + (turn s.e 6 ^^^ turn s.e 11 ^^^ turn s.e 25) +
    ((s.e &&& s.f) ^^^ (~~~s.e &&& s.g)) + input
  let second := (turn s.a 2 ^^^ turn s.a 13 ^^^ turn s.a 22) +
    ((s.a &&& s.b) ^^^ (s.a &&& s.c) ^^^ (s.b &&& s.c))
  ⟨first + second, s.a, s.b, s.c, s.d + first, s.e, s.f, s.g⟩

/-- The words after a block. -/
def absorb (words : Array UInt32) (block : Bytes) : Array UInt32 :=
  let w := schedule (words32 block)
  let word (i : Nat) := words.getD i 0
  let s := (List.range 64).foldl (fun s i => round (constants.getD i 0 + w.getD i 0) s)
    ⟨word 0, word 1, word 2, word 3, word 4, word 5, word 6, word 7⟩
  #[word 0 + s.a, word 1 + s.b, word 2 + s.c, word 3 + s.d, word 4 + s.e, word 5 + s.f,
    word 6 + s.g, word 7 + s.h]

/-- The digest of a message. -/
def digest (message : Bytes) : Bytes :=
  ((chunks 63 (padded 64 8 message)).foldl absorb start).toList.flatMap fun w =>
    bytesBE 4 w.toNat

end Gangway.Digest.Sha256
