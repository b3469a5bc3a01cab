/-!
# Errors

Every way in which loading the settings, reading a document, resolving an address or reaching the
engine can fail, by cause. `message` gives the one text in which a cause is reported.
-/

namespace Gangway

/-- What is wrong with a setting once all layers are merged. -/
structure SettingFault where
  field : String
  message : String
  deriving DecidableEq, Repr, Inhabited

/-- Why the settings could not be loaded. -/
inductive ConfigError where
  /-- The configuration file cannot be read. -/
  | file (message : String)
  /-- The configuration file is read but is not well formed. -/
  | malformed (path reason : String)
  /-- A variable of the environment holds no value of its type. -/
  | invalidValue (field reason : String)
  /-- The merged layers do not have the shape of the settings. -/
  | merged (fault : SettingFault)
  deriving DecidableEq, Repr

/-- Why one `containers.conf` document gives no destinations. -/
inductive DocumentError where
  | unreadable (path message : String)
  | malformed (path message : String)
  deriving DecidableEq, Repr

/-- Why no address was resolved. -/
inductive ResolutionError where
  /-- None of the sources named gave a unix address. -/
  | noCandidate (exhausted : String)
  /-- None of the documents named gave a complete ssh destination. -/
  | noSshCandidate (searched : String)
  deriving DecidableEq, Repr

/-- Why the engine cannot be reached through a bastion. -/
inductive SshError where
  | uriParse (uri message : String)
  | identityUnreadable (path message : String)
  | identityPassphraseRequired (path : String)
  | identityParse (path message : String)
  | trustStoreUnreadable (path message : String)
  | hostKeyUnknown (host : String)
  | handshakeFailed (host message : String)
  | handshakeTimeout (host : String) (seconds : Nat)
  | authenticationRejected (host user : String)
  | channelOpenFailed (path message : String)
  | relayFailed (message : String)
  deriving DecidableEq, Repr

/-- Why a client for an engine socket cannot be built, or got no answer. -/
inductive EngineError where
  | connectionFailed (message : String)
  | socketNotFound (path : String)
  | permissionDenied (path : String)
  | unsupportedScheme (address reason : String)
  | livenessCheckFailed (message : String)
  | livenessTimeout (seconds : Nat)
  | runtimeCreationFailed (message : String)
  deriving DecidableEq, Repr

/-- Any failure of the library, by the part it comes from. -/
inductive Error where
  | config (error : ConfigError)
  | resolution (error : ResolutionError)
  | ssh (error : SshError)
  | engine (error : EngineError)
  deriving DecidableEq, Repr

/-- The text of a fault in the merged settings. -/
def SettingFault.text (fault : SettingFault) : String :=
  s!"Validation failed for '{fault.field}': {fault.message}"

/-- The text in which the error is reported. -/
def ConfigError.message : ConfigError → String
  | .file text => s!"failed to parse configuration file: {text}"
  | .malformed path reason =>
    s!"failed to parse configuration file: failed to parse {path}: {reason}"
  | .invalidValue field reason => s!"invalid configuration value for '{field}': {reason}"
  | .merged fault => s!"configuration loading failed: {fault.text}"

/-- The text in which the error is reported. -/
def DocumentError.message : DocumentError → String
  | .unreadable path text => s!"cannot read containers.conf at '{path}': {text}"
  | .malformed path text => s!"malformed containers.conf at '{path}': {text}"

/-- The text in which the error is reported. -/
def ResolutionError.message : ResolutionError → String
  | .noCandidate exhausted => s!"no unix socket address found; searched {exhausted}"
  | .noSshCandidate searched =>
    s!"no ssh destination with both uri and identity found; searched {searched}"

/-- The text in which the error is reported. -/
def SshError.message : SshError → String
  | .uriParse uri text => s!"invalid ssh uri '{uri}': {text}"
  | .identityUnreadable path text => s!"failed to read identity '{path}': {text}"
  | .identityPassphraseRequired path =>
    s!"identity '{path}' is encrypted and no passphrase was supplied"
  | .identityParse path text => s!"failed to parse identity '{path}': {text}"
  | .trustStoreUnreadable path text => s!"failed to read known hosts file '{path}': {text}"
  | .hostKeyUnknown host =>
    s!"no trusted host key for '{host}' and strict host key checking is enabled"
  | .handshakeFailed host text => s!"ssh handshake with '{host}' failed: {text}"
  | .handshakeTimeout host seconds =>
    s!"ssh handshake with '{host}' timed out after {seconds} seconds"
  | .authenticationRejected host user => s!"ssh authentication as '{user}' rejected by '{host}'"
  | .channelOpenFailed path text =>
    s!"failed to open ssh channel to remote socket '{path}': {text}"
  | .relayFailed text => s!"failed to set up local tunnel relay: {text}"

/-- The text in which the error is reported. -/
def EngineError.message : EngineError → String
  | .connectionFailed text => s!"failed to connect to container engine: {text}"
  | .socketNotFound path => s!"container engine socket not found: {path}"
  | .permissionDenied path => s!"permission denied accessing container socket: {path}"
  | .unsupportedScheme address reason => s!"unsupported engine address '{address}': {reason}"
  | .livenessCheckFailed text => s!"container engine liveness check failed: {text}"
  | .livenessTimeout seconds =>
    s!"container engine liveness check timed out after {seconds} seconds"
  | .runtimeCreationFailed text => s!"failed to create async runtime: {text}"

/-- The text in which the error is reported: that of its cause. -/
def Error.message : Error → String
  | .config error => error.message
  | .resolution error => error.message
  | .ssh error => error.message
  | .engine error => error.message

end Gangway
