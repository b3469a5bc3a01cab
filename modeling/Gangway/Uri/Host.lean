import Gangway.Text.Blank
import Gangway.Text.Case
import Gangway.Text.Printable
import Gangway.Uri.Ipv6
import Gangway.Uri.Percent
import Gangway.Uri.Punycode

/-!
# Hosts

A host is an IPv6 address in brackets or a name. The special schemes take domain names and IPv4
addresses; every other scheme takes an opaque name, which keeps its letters and is percent-encoded
where it is not ASCII.
-/

namespace Gangway.Uri

open Gangway.Text (Bytes pieces dropLeading lower utf8Chars readUtf8Lossy)

/-- Why a text is no URI. -/
inductive Fault where
  | noScheme
  | emptyHost
  | invalidPort
  | invalidIpv4
  | invalidIpv6
  | invalidDomainCharacter
  | invalidDomain
  deriving DecidableEq, Repr

/-- The text of a fault. -/
def Fault.message : Fault → String
  | .noScheme => "relative URL without a base"
  | .emptyHost => "empty host"
  | .invalidPort => "invalid port number"
  | .invalidIpv4 => "invalid IPv4 address"
  | .invalidIpv6 => "invalid IPv6 address"
  | .invalidDomainCharacter => "invalid domain character"
  | .invalidDomain => "invalid international domain name"

/-- A host. -/
inductive Host where
  | name (text : String)
  | address (ipv6 : Ipv6)
  deriving DecidableEq, Repr

/-- Whether an opaque host must not hold the character. -/
def isForbiddenInHost (c : Char) : Bool :=
  c.toNat = 0 || "\t\n\r #/:<>?@[\\]^|".toList.contains c

/-- The host in brackets, if the text begins with one. -/
def bracketed? (text : List Char) : Option (Except Fault Host) :=
  match text with
  | '[' :: rest =>
    match rest.reverse with
    | ']' :: inner =>
      match Ipv6.parse? inner.reverse with
      | some address => some (.ok (.address address))
      | none => some (.error .invalidIpv6)
    | _ => some (.error .invalidIpv6)
  | _ => none

/-- The host of a scheme that is not special. -/
def opaqueHost (text : List Char) : Except Fault Host :=
  match bracketed? text with
  | some host => host
  | none =>
    if text.any isForbiddenInHost then .error .invalidDomainCharacter
    else .ok (.name (String.ofList (percentEncode hostKeeps text)))

/-- A number of an IPv4 address: octal after `0`, hexadecimal after `0x`, else decimal. -/
def ipv4Number? (text : List Char) : Option Nat :=
  let (base, digits) :=
    match text with
    | '0' :: 'x' :: rest => (16, rest)
    | '0' :: 'X' :: rest => (16, rest)
    | '0' :: c :: rest => (8, c :: rest)
    | _ => (10, text)
  if text.isEmpty then none
  else
    digits.foldlM (fun n c =>
      match Hex.digit? c with
      | some d => if d < base then some (n * base + d) else none
      | none => none) 0

/-- The parts of a domain between dots, without an empty last one. -/
def domainParts (domain : List Char) : List (List Char) :=
  match (pieces '.' domain).reverse with
  | [] :: last :: rest => (last :: rest).reverse
  | parts => parts.reverse

/-- Whether the last part of a domain makes it an IPv4 address. -/
def endsInNumber (domain : List Char) : Bool :=
  match (domainParts domain).getLast? with
  | some last =>
    (!last.isEmpty && last.all fun c => '0' ≤ c && c ≤ '9') || (ipv4Number? last).isSome
  | none => false

/-- Whether the parts make up an IPv4 address: at most four numbers, of which the last fills what
the others leave. -/
def isIpv4 (domain : List Char) : Bool :=
  match (domainParts domain).mapM ipv4Number? with
  | some numbers =>
    match numbers.reverse with
    | last :: others =>
      others.length ≤ 3 && others.all (· ≤ 255) && last < Nat.pow 256 (4 - others.length)
    | [] => false
  | none => false

/-- Whether a domain must not hold the character. -/
def isForbiddenInDomain (c : Char) : Bool :=
  c.toNat < 0x21 || c.toNat = 0x7F || "%#/:<>?@[\\]^|".toList.contains c

/-- Whether a label of a domain is acceptable: no forbidden character, and an encoded one spells
characters that print, one of them beyond ASCII. -/
def isLabel (label : List Char) : Bool :=
  label.all (fun c => !isForbiddenInDomain c && Text.prints c) &&
    match dropLeading ['x', 'n', '-', '-'] (lower label) with
    | none => true
    | some encoded =>
      match Punycode.decode? encoded with
      | some decoded =>
        decoded.all (fun c => Text.prints c && Text.lowerChar c = c) &&
          decoded.any fun c => c.toNat ≥ 0x80
      | none => false

/-- Characters that a domain may hold and that leave no trace in it: soft hyphens, joiners of words
and selectors of variants. -/
def isIgnored (c : Char) : Bool :=
  let n := c.toNat
  n = 0xAD || n = 0x34F || n = 0x200B || n = 0x2060 || n = 0x2064 || n = 0xFEFF ||
    (0x180B ≤ n && n ≤ 0x180F) || (0xFE00 ≤ n && n ≤ 0xFE0F)

/-- What a character of a domain stands for: nothing, the plain form of a full-width character, a
dot for an ideographic full stop, or itself. -/
def domainChar? (c : Char) : Option Char :=
  let n := c.toNat
  if isIgnored c then none
  else if 0xFF01 ≤ n && n ≤ 0xFF5E then some (Char.ofNat (n - 0xFEE0))
  else if n = 0x3002 || n = 0xFF61 then some '.'
  else some c

/-- The host of a special scheme. -/
def domainHost (text : List Char) : Except Fault Host :=
  match bracketed? text with
  | some host => host
  | none =>
    let written := readUtf8Lossy (percentDecode (utf8Chars text))
    let domain := lower (written.filterMap domainChar?)
    if !(pieces '.' domain).all isLabel then .error .invalidDomain
    else if domain.isEmpty then .error .emptyHost
    else if endsInNumber domain && !isIpv4 domain then .error .invalidIpv4
    else .ok (.name (String.ofList domain))

end Gangway.Uri
