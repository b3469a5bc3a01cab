import Gangway.Digest.Hmac
import Gangway.Encoding.Base64
import Gangway.Text.Case
import Gangway.Text.Cut
import Gangway.Text.Glob

/-!
# Host patterns

A pattern of a trust store selects lookup names: a name with wildcards, which a leading `!` turns
into an exclusion, or the keyed digest of one name under a salt.
-/

namespace Gangway.Ssh

open Gangway.Text (Bytes utf8 utf8Chars splitOnce dropLeading)

/-- A pattern for lookup names. -/
inductive HostPattern where
  /-- A name in small letters, with wildcards; a negated one excludes what it matches. -/
  | name (pattern : String) (negated : Bool)
  /-- The keyed digest of a name. -/
  | hashed (salt digest : Bytes)
  deriving DecidableEq, Repr

/-- Why a text is no pattern. -/
inductive PatternFault where
  | missingDigest
  | notBase64 (fault : Base64.Fault)
  | empty
  deriving DecidableEq, Repr

/-- The text of a fault. -/
def PatternFault.message : PatternFault → String
  | .missingDigest => "hashed host is missing its digest"
  | .notBase64 fault => s!"hashed host is not base64: {fault.message}"
  | .empty => "empty host pattern"

namespace HostPattern

/-- The front of a hashed pattern. -/
def hashMark : List Char := ['|', '1', '|']

/-- One side of a hashed pattern. -/
def readHash (text : List Char) : Except PatternFault Bytes :=
  match Base64.readStrict (utf8Chars text) with
  | .ok bytes => .ok bytes
  | .error fault => .error (.notBase64 fault)

/-- A pattern with its negation already taken off. -/
def ofName (negated : Bool) (text : List Char) : Except PatternFault HostPattern :=
  if text.isEmpty then .error .empty else .ok (.name (String.ofList (Text.lower text)) negated)

/-- The pattern of a text. -/
def parse (text : List Char) : Except PatternFault HostPattern :=
  match dropLeading hashMark text with
  | some sides =>
    match splitOnce ['|'] sides with
    | none => .error .missingDigest
    | some (salt, digest) => do
      let salt ← readHash salt
      let digest ← readHash digest
      .ok (.hashed salt digest)
  | none =>
    match text with
    | '!' :: rest => ofName true rest
    | _ => ofName false text

/-- Whether the pattern matches a lookup name, negated or not. -/
def selects (pattern : HostPattern) (lookup : String) : Bool :=
  match pattern with
  | .name text _ => Text.globMatches (utf8 text) (utf8 lookup)
  | .hashed salt digest => Digest.hmacSha1 salt (utf8 lookup) == digest

/-- Whether the pattern excludes what it matches. -/
def isNegated : HostPattern → Bool
  | .name _ negated => negated
  | .hashed .. => false

end HostPattern

end Gangway.Ssh
