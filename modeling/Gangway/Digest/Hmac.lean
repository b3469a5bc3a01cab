import Gangway.Digest.Sha1

/-!
# HMAC

The keyed digest: the key, brought to the length of a block, is mixed into the message before an
inner and an outer digest.
-/

namespace Gangway.Digest

open Gangway.Text (Bytes)

/-- The key of a keyed digest at the length of a block: a longer key is digested first. -/
def blockKey (digest : Bytes → Bytes) (block : Nat) (key : Bytes) : Bytes :=
  let short := if key.length > block then digest key else key
  short ++ List.replicate (block - short.length) 0

/-- The keyed digest of a message over a digest with the given block length. -/
def hmac (digest : Bytes → Bytes) (block : Nat) (key message : Bytes) : Bytes :=
  let whole := blockKey digest block key
  digest (whole.map (· ^^^ 0x5C) ++ digest (whole.map (· ^^^ 0x36) ++ message))

/-- The keyed SHA-1 digest of a message. -/
def hmacSha1 (key message : Bytes) : Bytes := hmac Sha1.digest 64 key message

end Gangway.Digest
