import Gangway.Digest.Words

/-!
# SHA-1

The 160-bit digest: five words are carried from block to block through eighty rounds.
-/

namespace Gangway.Digest.Sha1

open Gangway.Text (Bytes)

/-- The five words carried from block to block. -/
structure State where
  a : UInt32
  b : UInt32
  c : UInt32
  d : UInt32
  e : UInt32

/-- The word turned left by `count` bits. -/
def turn (w : UInt32) (count : UInt32) : UInt32 := (w <<< count) ||| (w >>> (32 - count))

/-- The state before the first block. -/
def start : State := ⟨0x67452301, 0xEFCDAB89, 0x98BADCFE, 0x10325476, 0xC3D2E1F0⟩

/-- The eighty words that the sixteen words of a block are expanded to. -/
def schedule (block : Array UInt32) : Array UInt32 :=
  (List.range 64).foldl (fun w i =>
    w.push
      (turn (w.getD (i + 13) 0 ^^^ w.getD (i + 8) 0 ^^^ w.getD (i + 2) 0 ^^^ w.getD i 0) 1)) block

/-- One round, whose number fixes the mixing function and the constant. -/
def round (number : Nat) (word : UInt32) (s : State) : State :=
  let (mix, key) : UInt32 × UInt32 :=
    if number < 20 then ((s.b &&& s.c) ||| (~~~s.b &&& s.d), 0x5A827999)
    else if number < 40 then (s.b ^^^ s.c ^^^ s.d, 0x6ED9EBA1)
    else if number < 60 then ((s.b &&& s.c) ||| (s.b &&& s.d) ||| (s.c &&& s.d), 0x8F1BBCDC)
    else (s.b ^^^ s.c ^^^ s.d, 0xCA62C1D6)
  ⟨turn s.a 5 + mix + s.e + key + word, s.a, turn s.b 30, s.c, s.d⟩

/-- The state after a block. -/
def absorb (s : State) (block : Bytes) : State :=
  let w := schedule (words32 block)
  let t := (List.range 80).foldl (fun t i => round i (w.getD i 0) t) s
  ⟨s.a + t.a, s.b + t.b, s.c + t.c, s.d + t.d, s.e + t.e⟩

/-- The bytes of a state. -/
def State.bytes (s : State) : Bytes :=
  [s.a, s.b, s.c, s.d, s.e].flatMap fun w => bytesBE 4 w.toNat

/-- The digest of a message. -/
def digest (message : Bytes) : Bytes :=
  ((chunks 63 (padded 64 8 message)).foldl absorb start).bytes

end Gangway.Digest.Sha1
