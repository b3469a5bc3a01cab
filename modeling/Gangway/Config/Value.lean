import Gangway.Entries
import Gangway.Toml.Value

/-!
# Layered values

The settings are layers of values, merged into one. Tables merge key by key; any other value
replaces what lies below it. `insertAt` puts a value at a path of keys and makes the tables on the
way.
-/

namespace Gangway.Config

/-- A value of a layer. -/
inductive Value where
  | null
  | boolean (truth : Bool)
  | number (literal : String)
  | text (content : String)
  | list (items : List Value)
  | table (entries : List (String × Value))
  deriving Inhabited, Repr

/-- The entries of a table. -/
abbrev Entries := List (String × Value)

/-- The entries with a value at a path. Tables that are missing on the way are made; where something
else is on the way, nothing changes. -/
def insertAt (value : Value) : List String → Entries → Entries
  | [], entries => entries
  | [key], entries => put key value entries
  | key :: path, entries =>
    match entries.lookup key with
    | none => put key (.table (insertAt value path [])) entries
    | some (.table inner) => put key (.table (insertAt value path inner)) entries
    | some _ => entries

/-- The value at a path. -/
def valueAt? : List String → Value → Option Value
  | [], value => some value
  | key :: path, .table entries =>
    match entries.lookup key with
    | some value => valueAt? path value
    | none => none
  | _ :: _, _ => none

mutual

/-- A value with a layer on top. -/
def merge (base : Value) : Value → Value
  | .table entries =>
    match base with
    | .table below => .table (mergeEntries below entries)
    | _ => .table entries
  | layer => layer

/-- The entries of a table with the entries of a layer on top. -/
def mergeEntries (below : Entries) : Entries → Entries
  | [] => below
  | (key, value) :: rest =>
    let merged :=
      match below.lookup key with
      | some old => merge old value
      | none => value
    mergeEntries (put key merged below) rest

end

/-- The key under which a date is kept in a layer. -/
def dateKey : String := "$__toml_private_datetime"

mutual

/-- The value of a layer that a TOML value gives. Integers must fit 64 bits; a float that is no
number has no value, and a date becomes a table of its own. -/
def ofToml : Toml.Value → Option Value
  | .text content => some (.text content)
  | .integer n =>
    if -0x8000000000000000 ≤ n ∧ n < 0x10000000000000000 then some (.number (toString n))
    else none
  | .float literal => some (if Toml.isFinite literal then .number literal else .null)
  | .boolean truth => some (.boolean truth)
  | .datetime literal => some (.table [(dateKey, .text literal)])
  | .array items => (ofTomlItems items).map .list
  | .table entries => (ofTomlEntries entries).map .table

/-- The values that the items of an array give. -/
def ofTomlItems : List Toml.Value → Option (List Value)
  | [] => some []
  | item :: rest => do
    let value ← ofToml item
    let more ← ofTomlItems rest
    some (value :: more)

/-- The entries that the entries of a table give. -/
def ofTomlEntries : Toml.Entries → Option Entries
  | [] => some []
  | (key, item) :: rest => do
    let value ← ofToml item
    let more ← ofTomlEntries rest
    some ((key, value) :: more)

end

end Gangway.Config
