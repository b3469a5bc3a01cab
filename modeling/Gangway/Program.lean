import Gangway.Config.Help
import Gangway.Config.Load
import Gangway.Engine.Connection

/-!
# The program

A run of the program prints the resolved address, or connects to the engine and prints how it was
reached. What goes wrong is reported with its causes, and the status tells faulty arguments from
failures.
-/

namespace Gangway.Program

/-- The name of the program. -/
def name : String := "podlink"

/-- The version of the program. -/
def version : String := "0.1.0"

/-- Where the engine is found. -/
inductive Found where
  | unix (address : String) (source : Source)
  | ssh (destination : SshDestination)
  deriving DecidableEq, Repr

/-- The line that tells where the engine is found. -/
def Found.line : Found → String
  | .unix address source => s!"unix\t{address}\t{source.text}\n"
  | .ssh destination =>
    s!"ssh\t{destination.uri}\t{destination.source}\tidentity={destination.identity}\n"

/-- Where a resolver finds the engine: at a unix address, or else behind an ssh destination. -/
def find (resolver : Resolver) : Except ResolutionError Found :=
  match resolver.resolveUnix with
  | .resolved address source => .ok (.unix address source)
  | .noCandidate _ => resolver.resolveSsh.map .ssh

/-- The line that tells how the engine was reached. -/
def liveLine (client : EngineClient) : String :=
  let transport := if client.route.isTunnelled then Transport.ssh else .unix
  s!"live\t{transport.scheme}\t{client.address}\n"

/-- What a run complains about. -/
inductive Complaint where
  | nothing
  /-- Faulty arguments, in one line. -/
  | usage (message : String)
  /-- The program is called without arguments. -/
  | help
  /-- An error and what caused it. -/
  | report (message : String) (cause : Option String)
  deriving DecidableEq, Repr

/-- The text of a complaint. -/
def Complaint.text : Complaint → String
  | .nothing => ""
  | .usage message => s!"error: {message}\n"
  | .help => Help.page name .brief .program
  | .report message none => s!"Error: {message}\n"
  | .report message (some cause) => s!"Error: {message}\n\nCaused by:\n    {cause}\n"

/-- What a run leaves behind. -/
structure Outcome where
  status : Nat
  output : String
  complaint : Complaint
  deriving DecidableEq, Repr

namespace Outcome

/-- A run that prints a text. -/
def success (output : String) : Outcome := ⟨0, output, .nothing⟩

/-- A run that fails. -/
def failure (message : String) (cause : Option String) : Outcome :=
  ⟨1, "", .report message cause⟩

/-- A run that ends with its arguments. -/
def ofFault (fault : ArgumentFault) : Outcome :=
  match fault with
  | .help topic detail => success (Help.page name detail topic)
  | .version => success s!"{name} {version}\n"
  | _ =>
    match fault.message? with
    | some message => ⟨2, "", .usage message⟩
    | none => ⟨2, "", .help⟩

/-- A run that resolves the address. -/
def ofFound : Except ResolutionError Found → Outcome
  | .ok found => success found.line
  | .error error => failure error.message none

/-- A run that connects to the engine. A client that was set up is told from one that was not. -/
def ofConnection : Except ConnectFailure EngineClient → Outcome
  | .ok client => success (liveLine client)
  | .error (.build error) => failure "could not build an engine client" (some error.message)
  | .error (.unreachable client error) =>
    failure (s!"engine client built over {client.route.text} at {client.address} " ++
      "but the engine did not answer") (some error.message)

end Outcome

/-- What a run meets. -/
structure Surroundings where
  environment : Environment
  files : Files
  world : World
  localUser : String

/-- The resolver that the settings select. -/
def resolver (surroundings : Surroundings) (settings : Settings) : Resolver where
  environment := surroundings.environment
  files := surroundings.files
  sources := settings.engine.sources surroundings.environment

/-- The connector that the settings select. -/
def connector (surroundings : Surroundings) (settings : Settings) : Connector where
  resolver := resolver surroundings settings
  options := settings.ssh.options surroundings.environment
  localUser := surroundings.localUser

/-- Carries out a command. -/
def execute (surroundings : Surroundings) (settings : Settings) : Command → Outcome
  | .resolve => .ofFound (find (resolver surroundings settings))
  | .ping =>
    .ofConnection
      ((connector surroundings settings).connectBlocking .blocking surroundings.world).outcome

/-- A run with arguments. -/
def run (surroundings : Surroundings) (arguments : List String) : Outcome :=
  match Arguments.parse arguments with
  | .error fault => .ofFault fault
  | .ok arguments =>
    match Config.load surroundings.environment surroundings.files arguments with
    | .error error => .failure error.message none
    | .ok settings => execute surroundings settings arguments.command

/-- The sockets that are looked for on the way to a client. -/
def wantedSockets (resolver : Resolver) : List String :=
  let runtime := resolver.runtimeDirectory?.map (Path.under · runtimeSocket)
  let resolved :=
    match resolver.resolveUnix.address.toOption.map dialable with
    | some (.ok uri) => [afterMarks uri, (unixPath? uri).getD ""]
    | _ => []
  runtime.toList ++ resolver.sources.defaultSocket :: resolved

/-- The files that are read to reach a bastion. -/
def wantedSecrets (resolver : Resolver) (options : SshOptions) : List String :=
  match resolver.resolveSsh with
  | .ok destination => destination.identity :: options.knownHosts.toList
  | .error _ => []

/-- The paths that a run looks at, as far as the files seen so far tell. -/
def wanted (surroundings : Surroundings) (arguments : List String) : List String :=
  match Arguments.parse arguments with
  | .error _ => []
  | .ok arguments =>
    let named := arguments.config.toList ++
      (Config.candidates surroundings.environment).filterMap OsText.text?
    match Config.load surroundings.environment surroundings.files arguments with
    | .error _ => named
    | .ok settings =>
      let connector := connector surroundings settings
      named ++ connector.resolver.sources.documents ++ wantedSockets connector.resolver ++
        wantedSecrets connector.resolver connector.options

end Gangway.Program
