import Gangway.Cipher.Blowfish
import Gangway.Digest.Sha512

/-!
# Keys from passphrases

A passphrase becomes a key of any length by digests, each of which sets up Blowfish under the
passphrase and a salt at great cost and encrypts a fixed text with it. The bytes of the digests are
spread over the key.
-/

namespace Gangway.Cipher

open Gangway.Text (Bytes utf8)
open Gangway.Digest

/-- A state without salt. -/
def noSalt : Array UInt32 := Array.replicate 16 0

/-- The text that is encrypted. -/
def magicWords : Array UInt32 := words32 (utf8 "OxychromaticBlowfishSwatDynamite")

/-- Two words encrypted `count` times. -/
def encipherTimes (state : Blowfish.State) : Nat → UInt32 → UInt32 → UInt32 × UInt32
  | 0, left, right => (left, right)
  | count + 1, left, right =>
    let (left, right) := Blowfish.encipher state.keys state.boxes left right
    encipherTimes state count left right

/-- The costly digest of a passphrase and a salt, both digested to 64 bytes before. -/
def costlyDigest (passphrase salt : Bytes) : Bytes :=
  let key := words32 passphrase
  let salt := words32 salt
  let state := (List.range 64).foldl (fun state _ =>
    Blowfish.expand noSalt key (Blowfish.expand noSalt salt state))
    (Blowfish.expand salt key Blowfish.start)
  (List.range 4).flatMap fun i =>
    let (left, right) :=
      encipherTimes state 64 (magicWords.getD (2 * i) 0) (magicWords.getD (2 * i + 1) 0)
    bytesLE 4 left.toNat ++ bytesLE 4 right.toNat

/-- The sum of the digests of the rounds that are left, each salted with the digest before it. -/
def sumRounds (passphrase : Bytes) : Nat → Bytes → Bytes → Bytes
  | 0, _, sum => sum
  | rounds + 1, last, sum =>
    let next := costlyDigest passphrase (Sha512.digest last)
    sumRounds passphrase rounds next (List.zipWith (· ^^^ ·) sum next)

/-- The digest with the given number, from one on. -/
def numberedDigest (passphrase salt : Bytes) (rounds number : Nat) : Bytes :=
  let first := costlyDigest passphrase (Sha512.digest (salt ++ bytesBE 4 number))
  sumRounds passphrase (rounds - 1) first first

/-- The key of a passphrase. There is none without a passphrase, a salt, a round or a byte. -/
def passphraseKey? (passphrase salt : Bytes) (rounds length : Nat) : Option Bytes :=
  if passphrase.isEmpty || salt.isEmpty || rounds = 0 || length = 0 then none
  else
    let count := (length + 31) / 32
    let digests := ((List.range count).map fun i =>
      (numberedDigest (Sha512.digest passphrase) salt rounds (i + 1)).toArray).toArray
    some ((List.range length).map fun i => (digests.getD (i % count) #[]).getD (i / count) 0)

end Gangway.Cipher
