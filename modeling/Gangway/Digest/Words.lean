import Gangway.Text.Utf8

/-!
# Words of bytes

Numbers as sequences of bytes with the most significant or the least significant byte first, and the
padding that fills a message up to whole blocks before it is digested.
-/

namespace Gangway.Digest

open Gangway.Text (Bytes)

/-- The number whose bytes, most significant first, are given. -/
def natOfBytes (bytes : Bytes) : Nat := bytes.foldl (fun n b => n * 256 + b.toNat) 0

/-- The number whose bytes, least significant first, are given. -/
def natOfBytesLE (bytes : Bytes) : Nat := bytes.foldr (fun b n => n * 256 + b.toNat) 0

/-- The last `count` bytes of a number, least significant first. -/
def bytesLE : Nat → Nat → Bytes
  | 0, _ => []
  | count + 1, n => UInt8.ofNat (n % 256) :: bytesLE count (n / 256)

/-- The last `count` bytes of a number, most significant first. -/
def bytesBE (count n : Nat) : Bytes := (bytesLE count n).reverse

/-- The list cut into runs of `size + 1`; a shorter rest is the last run. -/
def chunks (size : Nat) (items : List α) : List (List α) :=
  match items with
  | [] => []
  | a :: rest => (a :: rest.take size) :: chunks size (rest.drop size)
termination_by items.length

/-- The message followed by the byte 0x80, zeros and its length in bits, so that it fills blocks.
The length field takes `field` bytes. -/
def padded (block field : Nat) (message : Bytes) : Bytes :=
  let zeros := (2 * block - (message.length + 1 + field) % block) % block
  message ++ 0x80 :: List.replicate zeros 0 ++ bytesBE field (8 * message.length)

/-- The 32-bit words of a block, most significant byte first. -/
def words32 (block : Bytes) : Array UInt32 :=
  ((chunks 3 block).map fun word => UInt32.ofNat (natOfBytes word)).toArray

/-- The 64-bit words of a block, most significant byte first. -/
def words64 (block : Bytes) : Array UInt64 :=
  ((chunks 7 block).map fun word => UInt64.ofNat (natOfBytes word)).toArray

end Gangway.Digest
