import Gangway.Engine.Transport
import Gangway.Toml.Document

/-!
# Destinations

The `[engine]` table of a `containers.conf` document names destinations and marks one of them
active. Only `active_service` and `service_destinations` are interpreted, and of a destination only
`uri` and `identity`; what is left out is empty. `destinationFor` picks the active destination when
it uses the transport asked for, and the least name that does otherwise.
-/

namespace Gangway

/-- A named endpoint. -/
structure Destination where
  /-- The scheme-qualified address of the engine. -/
  uri : String := ""
  /-- The path of the private key for an ssh destination; it may be empty. -/
  identity : String := ""
  deriving DecidableEq, Repr, Inhabited

/-- The destinations of a document, by name. -/
abbrev Destinations := List (String × Destination)

/-- The destinations with one more, in the order of their names; a name has one destination. -/
def Destinations.insert (name : String) (destination : Destination) : Destinations → Destinations
  | [] => [(name, destination)]
  | (n, d) :: rest =>
    if name = n then (name, destination) :: rest
    else if name < n then (name, destination) :: (n, d) :: rest
    else (n, d) :: insert name destination rest

/-- The destinations of a list, in the order of their names; the last of equal names counts. -/
def Destinations.ofList (named : List (String × Destination)) : Destinations :=
  named.foldl (fun all (name, destination) => all.insert name destination) []

/-- The `[engine]` table of a document. -/
structure EngineConfig where
  /-- The name of the destination marked active. -/
  activeService : String := ""
  /-- The destinations in the order of their names. -/
  destinations : Destinations := []
  deriving DecidableEq, Repr, Inhabited

namespace EngineConfig

/-- The destination that serves a transport: the active one, or the first by name. -/
def destinationFor (config : EngineConfig) (transport : Transport) : Option Destination :=
  match (config.destinations.lookup config.activeService).filter (transport.carries ·.uri) with
  | some active => some active
  | none => (config.destinations.find? fun named => transport.carries named.2.uri).map (·.2)

open Toml (Value)

/-- A text field: left out, it is empty. -/
def textField : Option Value → Option String
  | none => some ""
  | some (.text content) => some content
  | some _ => none

/-- The fields of a record from a value: by name from a table, in order from an array, and none of
them from a date. -/
def fields (names : List String) : Value → Option (List (Option Value))
  | .table entries => some (names.map (Toml.get? entries))
  | .array items => some ((List.range names.length).map fun i => items[i]?)
  | .datetime _ => some (names.map fun _ => none)
  | _ => none

/-- A destination from its value. -/
def destinationOf (value : Value) : Option Destination := do
  match ← fields ["uri", "identity"] value with
  | [uri, identity] => do
    let uri ← textField uri
    let identity ← textField identity
    some { uri, identity }
  | _ => none

/-- The destinations from a table of them. -/
def destinationsOf : Option Value → Option Destinations
  | none => some []
  | some (.table entries) =>
    (entries.mapM fun (entry : String × Value) =>
      (destinationOf entry.2).map fun destination => (entry.1, destination)).map Destinations.ofList
  | some _ => none

/-- The configuration from the value of the `engine` key. -/
def ofValue (value : Value) : Option EngineConfig := do
  match ← fields ["active_service", "service_destinations"] value with
  | [active, named] => do
    let activeService ← textField active
    let destinations ← destinationsOf named
    some { activeService, destinations }
  | _ => none

/-- The configuration from the table of a document. -/
def ofDocument (document : Toml.Entries) : Option EngineConfig :=
  match Toml.get? document "engine" with
  | none => some {}
  | some value => ofValue value

/-- The configuration that a document's text gives, if it is well formed. -/
def read? (content : String) : Option EngineConfig := do
  ofDocument (← Toml.readDocument content)

end EngineConfig

end Gangway
