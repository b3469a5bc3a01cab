import Gangway.Encoding.Hex

/-!
# Percent-encoding

A byte is written as `%` and two capital digits unless it is one of the bytes that a part of a URI
keeps. Decoding replaces each such triple by its byte and keeps everything else, a `%` without two
digits too.
-/

namespace Gangway.Uri

open Gangway.Text (Bytes utf8Chars)

/-- The three characters of an encoded byte. -/
def percentByte (b : UInt8) : List Char :=
  ['%', Hex.capital (b.toNat / 16), Hex.capital (b.toNat % 16)]

/-- A character as a part of a URI holds it: itself, or the triples of its bytes. -/
def encodeChar (keeps : Char → Bool) (c : Char) : List Char :=
  if keeps c then [c] else (utf8Chars [c]).flatMap percentByte

/-- A text as a part of a URI holds it. -/
def percentEncode (keeps : Char → Bool) (text : List Char) : List Char :=
  text.flatMap (encodeChar keeps)

/-- Printable ASCII, which every part keeps unless it says otherwise. -/
def isAscii (c : Char) : Bool := ' ' ≤ c && c ≤ '~'

/-- What an opaque host keeps: everything but controls. -/
def hostKeeps (c : Char) : Bool := isAscii c

/-- What a query keeps. -/
def queryKeeps (c : Char) : Bool := isAscii c && !(" \"#<>".toList.contains c)

/-- What a path keeps. -/
def pathKeeps (c : Char) : Bool := queryKeeps c && !("?\x60\x7b\x7d".toList.contains c)

/-- What a user name keeps. -/
def userKeeps (c : Char) : Bool := pathKeeps c && !("/:;=@[\\]^|".toList.contains c)

/-- The value of an ASCII hexadecimal digit. -/
def hexByte? (b : UInt8) : Option Nat := Hex.digit? (Char.ofNat b.toNat)

/-- The bytes with every encoded triple replaced by its byte. -/
def percentDecode : Bytes → Bytes
  | 0x25 :: high :: low :: rest =>
    match hexByte? high, hexByte? low with
    | some h, some l => UInt8.ofNat (h * 16 + l) :: percentDecode rest
    | _, _ => 0x25 :: percentDecode (high :: low :: rest)
  | b :: rest => b :: percentDecode rest
  | [] => []

end Gangway.Uri
