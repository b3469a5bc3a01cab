import Gangway.Entries
import Gangway.Toml.Value

/-!
# Building TOML tables

A document is a list of sections, each a header with assignments under it. Sections are added to a
draft, which remembers how each table came about, since a table is written once: a header may take
up a table only if other headers mentioned it in passing, and dotted keys extend only tables that
dotted keys made.
-/

namespace Gangway.Toml

/-- How a table came about. -/
inductive Origin where
  /-- It has a header of its own. -/
  | header
  /-- It was passed through by the header of a table inside it. -/
  | passed
  /-- It was made by a dotted key. -/
  | dotted
  deriving DecidableEq, Repr

/-- A table under construction, entry by entry. -/
inductive Draft where
  /-- A value that nothing is added to. -/
  | closed (value : Value)
  | table (origin : Origin) (entries : List (String × Draft))
  /-- An array of tables, of which the last takes additions. -/
  | tables (items : List (List (String × Draft)))
  deriving Inhabited

/-- The entries of a draft. -/
abbrev DraftEntries := List (String × Draft)

/-- Changes the entries of the last table of an array. -/
def changeLast (change : DraftEntries → Option DraftEntries) :
    List DraftEntries → Option (List DraftEntries)
  | [] => none
  | [last] => (change last).map fun changed => [changed]
  | item :: rest => (changeLast change rest).map (item :: ·)

/-- Changes the table at a path that a header passes through, making the tables that are missing. -/
def changeAt (change : DraftEntries → Option DraftEntries) :
    List String → DraftEntries → Option DraftEntries
  | [], entries => change entries
  | key :: path, entries =>
    match entries.lookup key with
    | none => (changeAt change path []).map fun made => put key (.table .passed made) entries
    | some (.closed _) => none
    | some (.table origin inner) =>
      (changeAt change path inner).map fun changed => put key (.table origin changed) entries
    | some (.tables items) =>
      (changeLast (changeAt change path) items).map fun changed => put key (.tables changed) entries

/-- Assigns a value to a key unless the key has one. -/
def assignNew (key : String) (value : Value) (entries : DraftEntries) : Option DraftEntries :=
  match entries.lookup key with
  | none => some (entries ++ [(key, .closed value)])
  | some _ => none

/-- Assigns a value at a dotted path. Tables on the way are made, or were made, by dotted keys; a
table that a header passed through is only gone through, and never gets the value itself. -/
def assign (value : Value) : List String → DraftEntries → Option DraftEntries
  | [], _ => none
  | [key], entries => assignNew key value entries
  | key :: next :: path, entries =>
    let last := path.isEmpty
    match entries.lookup key with
    | none => (assign value (next :: path) []).map fun made => put key (.table .dotted made) entries
    | some (.table .dotted inner) =>
      (assign value (next :: path) inner).map fun changed =>
        put key (.table .dotted changed) entries
    | some (.table .passed inner) =>
      if last then none
      else
        (assign value (next :: path) inner).map fun changed =>
          put key (.table .passed changed) entries
    | some (.tables items) =>
      if last then none
      else
        (changeLast (assign value (next :: path)) items).map fun changed =>
          put key (.tables changed) entries
    | some (.table .header _) => none
    | some (.closed _) => none

/-- An assignment of a value to a dotted key. -/
structure Assignment where
  path : List String
  value : Value

/-- The entries with all assignments made in order. -/
def assignAll (assignments : List Assignment) (entries : DraftEntries) : Option DraftEntries :=
  assignments.foldlM (fun entries a => assign a.value a.path entries) entries

/-- A header's kind: one table, or one more element of an array of tables. -/
inductive Heading where
  | table
  | element
  deriving DecidableEq, Repr

/-- A header with the assignments under it. -/
structure Section where
  heading : Heading
  path : List String
  assignments : List Assignment

/-- Adds the table of a header under its own name: a new one, or one only passed through so far. -/
def openTable (key : String) (assignments : List Assignment) (entries : DraftEntries) :
    Option DraftEntries :=
  match entries.lookup key with
  | none =>
    (assignAll assignments []).map fun made => put key (.table .header made) entries
  | some (.table .passed inner) =>
    (assignAll assignments inner).map fun made => put key (.table .header made) entries
  | some _ => none

/-- Adds an element to the array of tables of a header. -/
def openElement (key : String) (assignments : List Assignment) (entries : DraftEntries) :
    Option DraftEntries :=
  match entries.lookup key with
  | none => (assignAll assignments []).map fun made => put key (.tables [made]) entries
  | some (.tables items) =>
    (assignAll assignments []).map fun made => put key (.tables (items ++ [made])) entries
  | some _ => none

/-- Adds a section to a document. -/
def addSection (part : Section) (root : DraftEntries) : Option DraftEntries :=
  match part.path.getLast? with
  | none => none
  | some key =>
    let opening :=
      match part.heading with
      | .table => openTable key part.assignments
      | .element => openElement key part.assignments
    changeAt opening part.path.dropLast root

mutual

/-- The value that a draft denotes. -/
def Draft.value : Draft → Value
  | .closed value => value
  | .table _ entries => .table (valueEntries entries)
  | .tables items => .array (valueItems items)

/-- The entries that a draft's entries denote. -/
def valueEntries : DraftEntries → Entries
  | [] => []
  | (key, draft) :: rest => (key, draft.value) :: valueEntries rest

/-- The tables that the elements of an array denote. -/
def valueItems : List DraftEntries → List Value
  | [] => []
  | item :: rest => .table (valueEntries item) :: valueItems rest

end

/-- The table of assignments alone, as an inline table has them. -/
def tableOf (assignments : List Assignment) : Option Entries :=
  (assignAll assignments []).map valueEntries

/-- The table of a document: assignments in front of all headers, then the sections in order. -/
def documentOf (front : List Assignment) (sections : List Section) : Option Entries := do
  let root ← assignAll front []
  let whole ← sections.foldlM (fun root part => addSection part root) root
  some (valueEntries whole)

end Gangway.Toml
