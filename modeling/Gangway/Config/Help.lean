import Gangway.Config.Arguments

/-!
# Help

What the program says about its subcommands and options. Brief help tells each option in one
sentence; full help tells all there is to say, with the values that an option chooses from one by
one.
-/

namespace Gangway.Help

/-- The program in one sentence. -/
def summary : String :=
  "Resolve and connect to a Podman engine over a local socket or an SSH bastion"

/-- Help in one sentence. -/
def helpSummary : String := "Print this message or the help of the given subcommand(s)"

/-- A command in one sentence. -/
def commandSummary : Command → String
  | .resolve => "Print the resolved engine address and the path that supplied it"
  | .ping => "Connect to the engine and run the liveness probe"

/-- What is said about an option. -/
structure Entry where
  /-- The option as it is written. -/
  shown : String
  brief : String
  /-- The paragraphs of the full text. -/
  full : List String
  /-- What the option is without being given. -/
  default : Option String := none
  /-- The values that it chooses from, each with its meaning. -/
  choices : List (String × String) := []

/-- The entry of an option that takes a value. -/
def optionEntry (option : ValueOption) : Entry :=
  let shown := "      " ++ option.shown
  match option with
  | .config =>
    { shown
      brief := "Path to configuration file"
      full := ["Path to configuration file"] }
  | .documents =>
    { shown
      brief := "`containers.conf` document to consult, least relevant first"
      full := ["`containers.conf` document to consult, least relevant first.",
        "Repeat to supply several; replaces the standard search list."] }
  | .knownHosts =>
    { shown
      brief := "Trust store of known SSH host keys"
      full := ["Trust store of known SSH host keys"] }
  | .logFormat =>
    { shown
      brief := "Log output format"
      full := ["Log output format"]
      default := some "compact"
      choices := [("compact", "Single-line human-readable records"),
        ("json", "Newline-delimited JSON records")] }

/-- The entry of the option that asks for help. -/
def helpEntry : Entry where
  shown := "  -h, --help"
  brief := "Print help (see more with '--help')"
  full := ["Print help (see a summary with '-h')"]

/-- The entry of the option that asks for the version. -/
def versionEntry : Entry where
  shown := "  -V, --version"
  brief := "Print version"
  full := ["Print version"]

/-- What stands in front of a line of an entry's text. -/
def margin : String := "          "

/-- The choices of an entry, in one line or in one line each. -/
def choiceLines (detail : Detail) (choices : List (String × String)) : String :=
  match detail with
  | .brief => " [possible values: " ++ ", ".intercalate (choices.map (·.1)) ++ "]"
  | .full =>
    let width := choices.foldl (fun width choice => max width choice.1.length) 0
    let line (choice : String × String) : String :=
      let gap := String.ofList (List.replicate (width - choice.1.length) ' ')
      s!"\n{margin}- {choice.1}: {gap}{choice.2}"
    s!"\n\n{margin}Possible values:" ++ String.join (choices.map line)

/-- The text of an entry. -/
def Entry.text (detail : Detail) (entry : Entry) : String :=
  let apart := s!"\n{margin}\n{margin}"
  let body :=
    match detail with
    | .brief => entry.brief
    | .full => apart.intercalate entry.full
  let default :=
    match entry.default, detail with
    | none, _ => ""
    | some value, .brief => s!" [default: {value}]"
    | some value, .full => s!"{apart}[default: {value}]"
  let choices := if entry.choices.isEmpty then "" else choiceLines detail entry.choices
  s!"{entry.shown}\n{margin}{body}{default}{choices}\n"

/-- The entries of options, which full help sets apart. -/
def options (detail : Detail) (entries : List Entry) : String :=
  let gap := if detail = .full then "\n" else ""
  "Options:\n" ++ gap.intercalate (entries.map (Entry.text detail))

/-- The options that every subcommand takes. -/
def sharedEntries : List Entry :=
  [ValueOption.config, .documents, .knownHosts, .logFormat].map optionEntry ++ [helpEntry]

/-- The help on a topic. -/
def page (name : String) (detail : Detail) : Topic → String
  | .program =>
    s!"{summary}\n\nUsage: {name} [OPTIONS] <COMMAND>\n\nCommands:\n" ++
      s!"  resolve  {commandSummary .resolve}\n" ++
      s!"  ping     {commandSummary .ping}\n" ++
      s!"  help     {helpSummary}\n\n" ++ options detail (sharedEntries ++ [versionEntry])
  | .command command =>
    s!"{commandSummary command}\n\nUsage: {name} {command.name} [OPTIONS]\n\n" ++
      options detail sharedEntries
  | .help =>
    s!"{helpSummary}\n\nUsage: {name} help [COMMAND]...\n\n" ++
      "Arguments:\n  [COMMAND]...  Print help for the subcommand(s)\n"

end Gangway.Help
