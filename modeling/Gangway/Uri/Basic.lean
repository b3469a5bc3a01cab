import Gangway.Uri.Host
import Gangway.Uri.Path

/-!
# URIs

`Uri.parse` reads a URI: a scheme, then an authority after `//` with an optional user, a host and an
optional port, a path, a query and a fragment. Blanks and controls at the ends are ignored, and so
are tabs and line ends everywhere. The schemes of the web are special: they need a host, and a
backslash counts as a slash in them.
-/

namespace Gangway

open Text (splitOnce dropLeading)
open Uri (Fault Host)

/-- A URI, as far as it names a place on a host. -/
structure Uri where
  /-- The scheme in small letters. -/
  scheme : String
  /-- The user name, percent-encoded; empty when there is none. -/
  username : String := ""
  /-- The host; a URI without an authority has none. -/
  host : Option Host := none
  port : Option UInt16 := none
  /-- The path, percent-encoded. -/
  path : String := ""
  /-- The text after `?`, without a fragment. -/
  query : Option (List Char) := none
  deriving DecidableEq, Repr

namespace Uri

/-- The text without the controls and spaces at its ends and without tabs and line ends. -/
def cleaned (text : List Char) : List Char :=
  let isEdge (c : Char) : Bool := c ≤ ' '
  let trimmed := ((text.dropWhile isEdge).reverse.dropWhile isEdge).reverse
  trimmed.filter fun c => !(c = '\t' || c = '\n' || c = '\r')

/-- Whether a scheme may hold the character after its first letter. -/
def isSchemeChar (c : Char) : Bool := c.isAlphanum || c = '+' || c = '-' || c = '.'

/-- The scheme, in small letters, and the text after its colon. -/
def cutScheme (text : List Char) : Option (List Char × List Char) :=
  match text with
  | [] => none
  | c :: _ =>
    if c.isAlpha then
      match text.span isSchemeChar with
      | (scheme, ':' :: rest) => some (Text.lower scheme, rest)
      | _ => none
    else none

/-- Whether the scheme is one of the web's, other than `file`. -/
def isSpecial (scheme : String) : Bool := ["http", "https", "ws", "wss", "ftp"].contains scheme

/-- Whether a character ends the authority. -/
def endsAuthority (special : Bool) (c : Char) : Bool :=
  c = '/' || c = '?' || c = '#' || (special && c = '\\')

/-- The user part of an authority, up to the last `@`, and the rest. -/
def cutUser (authority : List Char) : Option (List Char × List Char) :=
  match authority.reverse.span (· != '@') with
  | (_, []) => none
  | (rest, _ :: user) => some (user.reverse, rest.reverse)

/-- The text of a host up to the colon of its port; colons between brackets belong to it. -/
def cutHost (inBrackets : Bool) : List Char → List Char × List Char
  | [] => ([], [])
  | c :: rest =>
    if c = ':' && !inBrackets then ([], c :: rest)
    else
      let inside := c = '[' || (c != ']' && inBrackets)
      let (host, after) := cutHost inside rest
      (c :: host, after)

/-- The number of a port's digits; a port beyond sixteen bits is none. -/
def portNumber? (digits : List Char) : Option UInt16 :=
  let n := digits.foldl (fun n c => n * 10 + (c.toNat - 48)) 0
  if n < 65536 then some (UInt16.ofNat n) else none

/-- The port after the host, which is digits up to the end of the authority or a backslash, with
what is left. No digits are no port. -/
def cutPort (text : List Char) : Except Fault (Option UInt16 × List Char) :=
  match text with
  | ':' :: rest =>
    match rest.span Char.isDigit with
    | (digits, after) =>
      match after with
      | c :: _ => if c = '\\' then finish digits after else .error .invalidPort
      | [] => finish digits []
  | rest => .ok (none, rest)
where
  finish (digits after : List Char) : Except Fault (Option UInt16 × List Char) :=
    if digits.isEmpty then .ok (none, after)
    else
      match portNumber? digits with
      | some port => .ok (some port, after)
      | none => .error .invalidPort

/-- The path, query and fragment: the path's text and the query's. -/
def cutQuery (text : List Char) : List Char × Option (List Char) :=
  let whole := text.takeWhile (· != '#')
  match whole.span (· != '?') with
  | (path, _ :: query) => (path, some query)
  | (path, []) => (path, none)

/-- The path of a URI with an authority: empty, or its segments. -/
def pathAfterAuthority (special : Bool) (text : List Char) : List Char :=
  let ends (c : Char) : Bool := c = '/' || (special && c = '\\')
  match text with
  | [] => if special then ['/'] else []
  | c :: rest => if ends c then normalPath ends rest else normalPath ends (c :: rest)

/-- The name that is left of a user part: the text before a colon, and whether anything is left of
the part at all. -/
def userName (user : List Char) : List Char × Bool :=
  match splitOnce [':'] user with
  | some (name, password) => (name, !name.isEmpty || !password.isEmpty)
  | none => (user, !user.isEmpty)

/-- The authority and what follows it, from behind the `//`. -/
def afterSlashes (scheme : String) (special : Bool) (text : List Char) : Except Fault Uri := do
  let (authority, rest) := text.span fun c => !endsAuthority special c
  let (user, place) :=
    match cutUser authority with
    | some (user, place) => (some user, place)
    | none => (none, authority)
  if user = some [] ∧ place = [] ∧ rest ≠ [] then throw .emptyHost
  let (name, credentials) := userName (user.getD [])
  let (hostText, portText) := cutHost false place
  if hostText.isEmpty && special then throw .emptyHost
  let host ← if special then domainHost hostText else opaqueHost hostText
  if hostText.isEmpty && !portText.isEmpty then throw .emptyHost
  let (port, left) ← cutPort portText
  if hostText.isEmpty && credentials then throw .emptyHost
  let (path, query) := cutQuery (left ++ rest)
  return {
    scheme
    username := String.ofList (percentEncode userKeeps name)
    host := if hostText.isEmpty then none else some host
    port
    path := String.ofList (pathAfterAuthority special path)
    query
  }

/-- The URI of a local file, whose host is a domain without a port, or none. -/
def fileUri (text : List Char) : Except Fault Uri := do
  let isSlash (c : Char) : Bool := c = '/' || c = '\\'
  let hostless (rest : List Char) : Uri :=
    { scheme := "file", path := String.ofList (pathAfterAuthority true (cutQuery rest).1) }
  match text with
  | a :: b :: rest =>
    if isSlash a && isSlash b then
      let (hostText, left) := rest.span fun c => !endsAuthority true c
      if isDrive hostText || hostText.isEmpty then return hostless rest
      return { hostless left with host := some (← domainHost hostText) }
    else return hostless text
  | _ => return hostless text

/-- Reads a URI. -/
def parse (text : String) : Except Fault Uri :=
  match cutScheme (cleaned text.toList) with
  | none => .error .noScheme
  | some (letters, rest) =>
    let scheme := String.ofList letters
    if scheme = "file" then fileUri rest
    else if isSpecial scheme then
      afterSlashes scheme true (rest.dropWhile fun c => c = '/' || c = '\\')
    else
      match dropLeading ['/', '/'] rest with
      | some rest => afterSlashes scheme false rest
      | none =>
        let (path, query) := cutQuery rest
        .ok { scheme, path := String.ofList (percentEncode hostKeeps path), query }

end Uri

end Gangway
