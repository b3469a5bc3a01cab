import Gangway.Text.Cut

/-!
# Transports

An engine is reached over a local unix socket or through an SSH bastion. A destination's URI names
the transport by its scheme, the text in front of the first `://`. `stripAuthority` relabels a unix
URI without its authority and keeps its path to the byte.
-/

namespace Gangway

/-- How a destination is reached. -/
inductive Transport where
  /-- A local unix socket. -/
  | unix
  /-- A remote socket behind an SSH bastion. -/
  | ssh
  deriving DecidableEq, Repr

namespace Transport

/-- The URI scheme of the transport. -/
def scheme : Transport → String
  | .unix => "unix"
  | .ssh => "ssh"

/-- The mark between the scheme of a URI and the rest. -/
def schemeMark : List Char := [':', '/', '/']

/-- Whether the text in front of the first `://` is the transport's scheme. -/
def carries (transport : Transport) (uri : String) : Bool :=
  match Text.splitOnce schemeMark uri.toList with
  | some (before, _) => before == transport.scheme.toList
  | none => false

end Transport

/-- The front of every unix address. -/
def unixMark : String := "unix://"

/-- The path that follows the front of a unix address. -/
def unixPath? (address : String) : Option String :=
  (Text.dropLeading unixMark.toList address.toList).map String.ofList

/-- The unix URI with an empty authority: `unix://user@host:port/path` becomes `unix:///path`. A
text that is no unix URI, has no authority, or has no path stays as it is. -/
def stripAuthority (uri : String) : String :=
  match Text.dropLeading unixMark.toList uri.toList with
  | none => uri
  | some ('/' :: _) => uri
  | some rest =>
    match Text.splitOnce ['/'] rest with
    | none => uri
    | some (_, path) => String.ofList (unixMark.toList ++ '/' :: path)

/-- Whether unix URIs from documents are taken as written or without their authority. -/
inductive UnixUriMode where
  | verbatim
  | stripAuthority
  deriving DecidableEq, Repr

/-- The address that a unix URI from a document gives. -/
def UnixUriMode.apply : UnixUriMode → String → String
  | .verbatim, uri => uri
  | .stripAuthority, uri => Gangway.stripAuthority uri

end Gangway
