/-!
# Command-line arguments

A subcommand with options, each of which takes a value and may stand in front of the subcommand or
after it; after it counts more. `Arguments.parse` reads them, and an `ArgumentFault` says what is
wrong, or that help or the version was asked for.
-/

namespace Gangway

/-- What the program does. -/
inductive Command where
  /-- Prints the resolved address and where it came from. -/
  | resolve
  /-- Connects to the engine and probes whether it answers. -/
  | ping
  deriving DecidableEq, Repr

/-- The name of a command. -/
def Command.name : Command → String
  | .resolve => "resolve"
  | .ping => "ping"

/-- The form of log records. -/
inductive LogFormat where
  | compact
  | json
  deriving DecidableEq, Repr

/-- The arguments of a run. -/
structure Arguments where
  command : Command
  /-- The configuration file. -/
  config : Option String := none
  /-- Documents that replace the standard ones. -/
  documents : List String := []
  /-- The trust store of host keys. -/
  knownHosts : Option String := none
  logFormat : LogFormat := .compact
  deriving DecidableEq, Repr

/-- An option that takes a value. -/
inductive ValueOption where
  | config
  | documents
  | knownHosts
  | logFormat
  deriving DecidableEq, Repr

/-- The long name of an option. -/
def ValueOption.name : ValueOption → String
  | .config => "config"
  | .documents => "containers-conf"
  | .knownHosts => "known-hosts"
  | .logFormat => "log-format"

/-- An option as messages show it. -/
def ValueOption.shown : ValueOption → String
  | .config => "--config <CONFIG>"
  | .documents => "--containers-conf <CONTAINERS_CONF>"
  | .knownHosts => "--known-hosts <KNOWN_HOSTS>"
  | .logFormat => "--log-format <LOG_FORMAT>"

/-- The option of a long name. -/
def ValueOption.ofName? (name : List Char) : Option ValueOption :=
  [.config, .documents, .knownHosts, .logFormat].find? fun option => option.name.toList == name

/-- What help is about. -/
inductive Topic where
  | program
  | command (command : Command)
  /-- The help on help. -/
  | help
  deriving DecidableEq, Repr

/-- How much help tells. -/
inductive Detail where
  | brief
  | full
  deriving DecidableEq, Repr

/-- Why arguments give no run. -/
inductive ArgumentFault where
  | unknownArgument (argument : String)
  | missingValue (option : ValueOption)
  | invalidValue (option : ValueOption) (value : String)
  | repeatedOption (option : ValueOption)
  | unexpectedValue (flag value : String)
  | unknownSubcommand (name : String)
  | missingSubcommand
  /-- Help is shown because there are no arguments. -/
  | helpForMissing
  /-- Help was asked for. -/
  | help (topic : Topic) (detail : Detail)
  /-- The version was asked for. -/
  | version
  deriving DecidableEq, Repr

/-- The line that reports a fault, where one does. -/
def ArgumentFault.message? : ArgumentFault → Option String
  | .unknownArgument argument => some s!"unexpected argument '{argument}' found"
  | .missingValue option =>
    some s!"a value is required for '{option.shown}' but none was supplied"
  | .invalidValue option value => some s!"invalid value '{value}' for '{option.shown}'"
  | .repeatedOption option =>
    some s!"the argument '{option.shown}' cannot be used multiple times"
  | .unexpectedValue flag value =>
    some s!"unexpected value '{value}' for '{flag}' found; no more were expected"
  | .unknownSubcommand name => some s!"unrecognized subcommand '{name}'"
  | .missingSubcommand => some "'podlink' requires a subcommand but one was not provided"
  | .helpForMissing => none
  | .help .. => none
  | .version => none

namespace Arguments

/-- The options given on one side of the subcommand. -/
structure Given where
  config : Option String := none
  documents : List String := []
  knownHosts : Option String := none
  logFormat : Option LogFormat := none
  /-- The last option, whose value may still be missing and is not judged yet. -/
  pending : Option (ValueOption × Option String) := none
  deriving DecidableEq, Repr

/-- Stores the value of an option that is given once. -/
def once (option : ValueOption) (old : Option α) (value : α) : Except ArgumentFault (Option α) :=
  if old.isSome then .error (.repeatedOption option) else .ok (some value)

/-- Judges the pending option and stores its value. -/
def Given.settle (given : Given) : Except ArgumentFault Given := do
  match given.pending with
  | none => return given
  | some (option, none) => throw (.missingValue option)
  | some (option, some value) =>
    let given := { given with pending := none }
    match option with
    | .config => return { given with config := ← once option given.config value }
    | .documents => return { given with documents := given.documents ++ [value] }
    | .knownHosts => return { given with knownHosts := ← once option given.knownHosts value }
    | .logFormat =>
      if given.logFormat.isSome then throw (.repeatedOption option)
      else if value = "compact" then return { given with logFormat := some .compact }
      else if value = "json" then return { given with logFormat := some .json }
      else if value.isEmpty then throw (.missingValue option)
      else throw (.invalidValue option value)

/-- Whether the last option still waits for its value. -/
def Given.awaits (given : Given) : Bool :=
  match given.pending with
  | some (_, none) => true
  | _ => false

/-- Takes an argument that begins with two hyphens, given without them. A value after an equals sign
is judged at once. The version is asked for only in front of a subcommand. -/
def Given.long (given : Given) (topic : Topic) (text : List Char) : Except ArgumentFault Given := do
  let (name, value) :=
    match text.span (· != '=') with
    | (name, _ :: value) => (name, some (String.ofList value))
    | (name, []) => (name, none)
  match ValueOption.ofName? name with
  | some option =>
    let given ← given.settle
    let asked := { given with pending := some (option, value) }
    if value.isSome then asked.settle else return asked
  | none =>
    let isHelp := name = "help".toList
    if isHelp || (name = "version".toList && topic = .program) then
      match value with
      | some value => throw (.unexpectedValue (String.ofList ('-' :: '-' :: name)) value)
      | none =>
        let _ ← given.settle
        throw (if isHelp then .help topic .full else .version)
    else throw (.unknownArgument (String.ofList ('-' :: '-' :: name)))

/-- Takes an argument that begins with one hyphen, of which the first letter decides. -/
def Given.short (given : Given) (topic : Topic) (letter : Char) : Except ArgumentFault Given := do
  if letter = 'h' || (letter = 'V' && topic = .program) then
    let _ ← given.settle
    throw (if letter = 'h' then .help topic .brief else .version)
  else throw (.unknownArgument (String.ofList ['-', letter]))

/-- The command of a name. -/
def command? (name : String) : Option Command :=
  [Command.resolve, .ping].find? fun command => command.name = name

/-- The topic of a name. -/
def topic? (name : String) : Option Topic :=
  if name = "help" then some .help else (command? name).map .command

/-- The fault of asking for help with names after it: at most one, of a topic. -/
def helpOn : List String → ArgumentFault
  | [] => .help .program .full
  | name :: rest =>
    match topic? name, rest with
    | some topic, [] => .help topic .full
    | some _, extra :: _ => .unknownSubcommand extra
    | none, _ => .unknownSubcommand name

/-- Takes an argument that is no subcommand, among those of a topic. `escaped` says that a lone `--`
came before. -/
def Given.take (given : Given) (topic : Topic) (escaped : Bool) (argument : String) :
    Except ArgumentFault Given :=
  let stray : Except ArgumentFault Given :=
    if topic ≠ .program || (escaped && (topic? argument).isSome) then
      .error (.unknownArgument argument)
    else .error (.unknownSubcommand argument)
  if escaped then stray
  else
    match argument.toList with
    | '-' :: '-' :: text => given.long topic text
    | '-' :: letter :: _ => given.short topic letter
    | _ =>
      match given.pending with
      | some (option, none) => .ok { given with pending := some (option, some argument) }
      | _ => stray

/-- The options after a subcommand. -/
def afterCommand (command : Command) (given : Given) (escaped : Bool) :
    List String → Except ArgumentFault Given
  | [] => given.settle
  | argument :: rest => do
    if argument = "--" && !escaped then afterCommand command given true rest
    else
      let given ← given.take (.command command) escaped argument
      afterCommand command given escaped rest

/-- The arguments that the options on both sides of a subcommand make up. -/
def combine (command : Command) (before after : Given) : Arguments where
  command
  config := after.config <|> before.config
  documents := if after.documents.isEmpty then before.documents else after.documents
  knownHosts := after.knownHosts <|> before.knownHosts
  logFormat := (after.logFormat <|> before.logFormat).getD .compact

/-- Reads the arguments after the options given so far. `any` says whether there was an option. -/
def parseFrom (given : Given) (any escaped : Bool) : List String → Except ArgumentFault Arguments
  | [] => do
    let _ ← given.settle
    throw (if any then .missingSubcommand else .helpForMissing)
  | argument :: rest => do
    if argument = "--" && !escaped then parseFrom given any true rest
    else if !escaped && !given.awaits && argument = "help" then throw (helpOn rest)
    else
      match if escaped || given.awaits then none else command? argument with
      | some command =>
        let after ← afterCommand command {} false rest
        let before ← given.settle
        return combine command before after
      | none =>
        let given ← given.take .program escaped argument
        parseFrom given true escaped rest

/-- Reads the arguments of a run. -/
def parse (arguments : List String) : Except ArgumentFault Arguments :=
  parseFrom {} false false arguments

end Arguments

end Gangway
