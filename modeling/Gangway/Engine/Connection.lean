import Gangway.Config.Settings
import Gangway.Engine.Client
import Gangway.Engine.Resolver
import Gangway.Ssh.Handshake

/-!
# Connecting to the resolved engine

A unix address that resolves is connected to. Only when no source gives one is an ssh destination
resolved, and a tunnel built to it: every local check comes before the bastion is dialled, and the
first that fails names the error. A client that was set up is then probed once, and handed back even
if the engine does not answer. `Run` keeps the steps that were taken beside what came of them.
-/

namespace Gangway

open Ssh (Params HostKeyPolicy AuthMethods Bastion Session Handshake Attempt)

/-- How a connected client reaches the engine. -/
inductive Route where
  /-- Over a local unix socket. -/
  | unix (address : String)
  /-- Through a bastion, behind a relay that listens on a socket. -/
  | tunnel (destination relay : String)
  deriving DecidableEq, Repr

namespace Route

/-- The address that the client speaks to: the address that was resolved, or the relay's. -/
def address : Route → String
  | .unix address => address
  | .tunnel _ relay => unixMark ++ relay

/-- Whether the engine is reached through a bastion. -/
def isTunnelled : Route → Bool
  | .unix _ => false
  | .tunnel .. => true

/-- The route as reports name it. -/
def text : Route → String
  | .unix _ => "unix socket"
  | .tunnel .. => "ssh tunnel"

end Route

/-- A client that was set up, and what pinging the engine with it gives. -/
structure EngineClient where
  route : Route
  ping : Ping

namespace EngineClient

/-- The address that the client speaks to. -/
def address (client : EngineClient) : String := client.route.address

/-- Probes the engine. -/
def probe (client : EngineClient) : Except EngineError Unit :=
  Gangway.probe client.ping client.address

/-- Probes the engine by a blocking call. A client that a blocking call has set up keeps what it
waited with; for any other one it has to be got anew. -/
def probeBlocking (client : EngineClient) (caller : Caller) (keeps : Bool := true) :
    Except EngineError Unit :=
  if keeps then do
    caller.mayBlock
    client.probe
  else Gangway.probeBlocking caller client.ping client.address

end EngineClient

/-- Why connecting gave no client that answers. -/
inductive ConnectFailure where
  /-- No client was set up. -/
  | build (error : Error)
  /-- A client was set up but the engine did not answer the probe. -/
  | unreachable (client : EngineClient) (error : EngineError)

namespace ConnectFailure

/-- The error underneath. -/
def error : ConnectFailure → Error
  | .build error => error
  | .unreachable _ error => .engine error

/-- The client that was set up, if there is one. -/
def client? : ConnectFailure → Option EngineClient
  | .build _ => none
  | .unreachable client _ => some client

/-- What a failure says of the engine in front of its error. -/
def subject : ConnectFailure → String
  | .build _ => ""
  | .unreachable client _ => s!"engine at {client.address} is unreachable: "

/-- The text in which the failure is reported. -/
def message (failure : ConnectFailure) : String := failure.subject ++ failure.error.message

end ConnectFailure

/-- What connecting meets outside of the process. -/
structure World where
  /-- What pinging the engine behind the socket at a path gives. -/
  engine : (path : String) → Ping
  /-- The bastion that parameters lead to. -/
  bastion : Params → Bastion
  /-- The socket of a relay, if one can be set up. -/
  relay : Except SshError String

/-- A step on the way to a client. -/
inductive Step where
  | resolveUnix
  | resolveSsh
  | parameters (uri : String)
  /-- The trust store is consulted, if the destination asks for it. -/
  | policy (params : Params)
  | identities (paths : List String)
  /-- The bastion is dialled, and these attempts to authenticate are made. -/
  | dial (host : String) (attempts : List Attempt)
  | relay
  | client (address : String)
  | probe (address : String)
  deriving DecidableEq, Repr

/-- The steps that were taken, and what came of them. -/
structure Run (ε α : Type) where
  steps : List Step
  outcome : Except ε α

namespace Run

/-- One step and what came of it. -/
def step (taken : Step) (outcome : Except ε α) : Run ε α := ⟨[taken], outcome⟩

/-- A run whose outcome is known without a step. -/
def pure (value : α) : Run ε α := ⟨[], .ok value⟩

/-- A run followed by another one, unless the first fails. -/
def bind (run : Run ε α) (next : α → Run ε β) : Run ε β :=
  match run.outcome with
  | .error error => ⟨run.steps, .error error⟩
  | .ok value => ⟨run.steps ++ (next value).steps, (next value).outcome⟩

/-- A run with its error seen as another. -/
def mapError (f : ε → δ) (run : Run ε α) : Run δ α :=
  ⟨run.steps, run.outcome.mapError f⟩

instance : Monad (Run ε) where
  pure := Run.pure
  bind := Run.bind

end Run

/-- Where connecting starts from: how addresses are resolved, how bastions are trusted, and the name
of the local account. -/
structure Connector where
  resolver : Resolver
  options : SshOptions
  localUser : String

namespace Connector

/-- The parameters of a destination. -/
def params (connector : Connector) (destination : SshDestination) : Except SshError Params :=
  Params.ofUri connector.localUser destination.uri destination.identity
    connector.resolver.passphrase?

/-- The policy for the host key of a bastion. -/
def policy (connector : Connector) (params : Params) : Except SshError HostKeyPolicy :=
  HostKeyPolicy.forConnection connector.resolver.files params connector.options.knownHosts
    connector.options.strictHostKeys

/-- The methods that are offered to a bastion: the key of the destination, and a password if there
is one. -/
def methods (connector : Connector) (params : Params) : Except SshError AuthMethods :=
  AuthMethods.resolve connector.resolver.files [params.keyPath] params.keyPassphrase
    (some params.password)

/-- The file system in which the socket of a relay is there. -/
def withSocket (files : Files) (socket : String) : Files :=
  { files with present := fun path => path == socket || files.present path }

/-- Builds a client behind a tunnel. -/
def tunnel (connector : Connector) (world : World) : Run Error EngineClient := do
  let destination ← .step .resolveSsh (connector.resolver.resolveSsh.mapError .resolution)
  let params ← .step (.parameters destination.uri) ((connector.params destination).mapError .ssh)
  let policy ← .step (.policy params) ((connector.policy params).mapError .ssh)
  let methods ← .step (.identities [params.keyPath]) ((connector.methods params).mapError .ssh)
  let handshake := Handshake.run (world.bastion params) params policy methods
  let session ← .step (.dial params.host handshake.attempts) (handshake.outcome.mapError .ssh)
  let socket ← .step .relay (world.relay.mapError .ssh)
  let route := Route.tunnel destination.uri socket
  let _ ← .step (.client route.address)
    ((Client.connect (withSocket connector.resolver.files socket) route.address).mapError .engine)
  return { route, ping := session.ping }

/-- Builds a client for a unix address. -/
def direct (connector : Connector) (world : World) (address : String) : Run Error EngineClient := do
  let client ← .step (.client address)
    ((Client.connect connector.resolver.files address).mapError .engine)
  return { route := .unix address, ping := world.engine client.socket }

/-- Builds a client for the resolved address. -/
def build (connector : Connector) (world : World) : Run Error EngineClient := do
  let resolution ← .step .resolveUnix (.ok connector.resolver.resolveUnix)
  match resolution with
  | .resolved address _ => connector.direct world address
  | .noCandidate _ => connector.tunnel world

/-- Connects to the resolved engine and probes it. -/
def connect (connector : Connector) (world : World) : Run ConnectFailure EngineClient := do
  let client ← (connector.build world).mapError .build
  .step (.probe client.address)
    (match client.probe with
    | .ok () => .ok client
    | .error error => .error (.unreachable client error))

/-- Connects by a blocking call, which ends before any step where the caller must not be blocked or
cannot wait. -/
def connectBlocking (connector : Connector) (caller : Caller) (world : World) :
    Run ConnectFailure EngineClient :=
  match caller.allow with
  | .ok () => connector.connect world
  | .error error => ⟨[], .error (.build (.engine error))⟩

end Connector

end Gangway
