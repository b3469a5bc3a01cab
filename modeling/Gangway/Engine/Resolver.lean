import Gangway.Engine.Document
import Gangway.Environment

/-!
# Resolving addresses

A unix address comes from the first of these sources that gives one: the variable `CONTAINER_HOST`,
the documents, of which the last with a unix destination counts, the socket in the runtime
directory, and the default socket. An ssh destination comes from the first document that has one
with an identity.
-/

namespace Gangway

/-- The variable with an address that overrides everything else. -/
def hostVariable : String := "CONTAINER_HOST"

/-- The variable with the passphrase of an encrypted identity. -/
def passphraseVariable : String := "CONTAINER_PASSPHRASE"

/-- The variable that names the user's runtime directory. -/
def runtimeVariable : String := "XDG_RUNTIME_DIR"

/-- The socket that is probed when nothing else is configured. -/
def standardSocket : String := "/run/podman/podman.sock"

/-- Where the user's socket lies in the runtime directory. -/
def runtimeSocket : String := "podman/podman.sock"

/-- Where an address may come from. -/
inductive Source where
  | environment
  | document (path : String)
  | runtime (path : String)
  | standard (path : String)
  deriving DecidableEq, Repr

/-- How a source is named in reports. -/
def Source.text : Source → String
  | .environment => hostVariable
  | .document path => s!"config {path}"
  | .runtime path => s!"runtime socket {path}"
  | .standard path => s!"default socket {path}"

/-- The sources named one after the other. -/
def Source.texts (sources : List Source) : String := ", ".intercalate (sources.map Source.text)

/-- What is known about a unix address. -/
inductive UnixResolution where
  | resolved (address : String) (source : Source)
  /-- None of these sources gave an address. -/
  | noCandidate (exhausted : List Source)
  deriving DecidableEq, Repr

/-- The address, or the error that names the exhausted sources. -/
def UnixResolution.address : UnixResolution → Except ResolutionError String
  | .resolved address _ => .ok address
  | .noCandidate exhausted => .error (.noCandidate (Source.texts exhausted))

/-- A complete ssh destination. -/
structure SshDestination where
  uri : String
  identity : String
  /-- The document it was read from. -/
  source : String
  deriving DecidableEq, Repr

/-- The sources that are consulted. -/
structure Sources where
  /-- The documents, the least relevant first. -/
  documents : List String
  /-- The runtime directory; without one the variable's counts. -/
  runtimeDirectory : Option String := none
  /-- The socket that is probed last. -/
  defaultSocket : String := standardSocket
  uriMode : UnixUriMode := .verbatim
  deriving DecidableEq, Repr

/-- The standard documents, the least relevant first: the vendor's, the administrator's and the
user's, unless the path of that one cannot be written down. -/
def Sources.standardDocuments (environment : Environment) : List String :=
  ["/usr/share/containers/containers.conf", "/etc/containers/containers.conf"] ++
    match environment.settingsDirectory?.bind OsText.text? with
    | some directory => [Path.under (Path.under directory "containers") "containers.conf"]
    | none => []

/-- Resolves addresses in an environment, on a file system, from sources. -/
structure Resolver where
  environment : Environment
  files : Files
  sources : Sources

namespace Resolver

/-- The passphrase for encrypted identities. -/
def passphrase? (resolver : Resolver) : Option String :=
  resolver.environment.nonEmpty? passphraseVariable

/-- The destination of a transport that a document gives. -/
def destinationIn? (resolver : Resolver) (transport : Transport) (path : String) :
    Option Destination := do
  let config ← EngineConfig.load? resolver.files path
  config.destinationFor transport

/-- The address and document of the last document that has a unix destination. -/
def scanUnix (resolver : Resolver) : Option (String × String) :=
  resolver.sources.documents.foldl (fun found path =>
    match resolver.destinationIn? .unix path with
    | some destination => some (resolver.sources.uriMode.apply destination.uri, path)
    | none => found) none

/-- The runtime directory: the one configured, or else the variable's. -/
def runtimeDirectory? (resolver : Resolver) : Option String :=
  match resolver.sources.runtimeDirectory with
  | some directory => some directory
  | none => resolver.environment.nonEmpty? runtimeVariable

/-- The address of the default socket, after the sources already exhausted. -/
def resolveDefault (resolver : Resolver) (exhausted : List Source) : UnixResolution :=
  let socket := resolver.sources.defaultSocket
  if resolver.files.present socket then .resolved (unixMark ++ socket) (.standard socket)
  else .noCandidate (exhausted ++ [.standard socket])

/-- The unix address. -/
def resolveUnix (resolver : Resolver) : UnixResolution :=
  match resolver.environment.nonEmpty? hostVariable with
  | some address => .resolved address .environment
  | none =>
    match resolver.scanUnix with
    | some (address, path) => .resolved address (.document path)
    | none =>
      let exhausted := .environment :: resolver.sources.documents.map .document
      match resolver.runtimeDirectory? with
      | none => resolver.resolveDefault exhausted
      | some directory =>
        let socket := Path.under directory runtimeSocket
        if resolver.files.present socket then .resolved (unixMark ++ socket) (.runtime socket)
        else resolver.resolveDefault (exhausted ++ [.runtime socket])

/-- The complete ssh destination of a document: its ssh destination, if that has an identity. -/
def sshIn? (resolver : Resolver) (path : String) : Option SshDestination := do
  let destination ← resolver.destinationIn? .ssh path
  if destination.uri.isEmpty || destination.identity.isEmpty then none
  else some { uri := destination.uri, identity := destination.identity, source := path }

/-- The documents as they are named when none has a complete ssh destination. -/
def searched (documents : List String) : String :=
  if documents.isEmpty then "no configuration documents" else ", ".intercalate documents

/-- The ssh destination. -/
def resolveSsh (resolver : Resolver) : Except ResolutionError SshDestination :=
  match resolver.sources.documents.findSome? resolver.sshIn? with
  | some destination => .ok destination
  | none => .error (.noSshCandidate (searched resolver.sources.documents))

end Resolver

end Gangway
