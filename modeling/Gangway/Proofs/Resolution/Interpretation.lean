import Gangway.Engine.Document
import Gangway.Proofs.Resolution.Choice
import Mathlib.Data.Option.Basic

/-!
# What of a document is interpreted

Of a document only the table `engine` counts, of that table only `active_service` and
`service_destinations`, and of a destination only `uri` and `identity`. Whatever is left out is
blank: it counts like an empty table or an empty text. `DocumentAlike` says when two documents agree
in all that counts, and such documents give the same configuration, or are malformed both. What does
count is held to its type: one destination whose URI is no text spoils the document.
-/

namespace Gangway

open Toml (Value Entries)

/-- What a table says under a key; what is left out is blank. -/
def Toml.said (blank : Value) (key : String) (entries : Entries) : Value :=
  (Toml.get? entries key).getD blank

/-- Two destinations with the same URI and the same identity. Where they are tables, the other keys
do not count. -/
inductive DestinationAlike : Value → Value → Prop where
  | same (value : Value) : DestinationAlike value value
  | table {entries other : Entries}
      (alike : ∀ key ∈ ["uri", "identity"],
        Toml.said (.text "") key entries = Toml.said (.text "") key other) :
      DestinationAlike (.table entries) (.table other)

/-- Two tables with the same names, and destinations under them that are alike. -/
inductive NamedAlike : Value → Value → Prop where
  | same (value : Value) : NamedAlike value value
  | table {entries other : Entries}
      (alike : ∀ name,
        Option.Rel DestinationAlike (Toml.get? entries name) (Toml.get? other name)) :
      NamedAlike (.table entries) (.table other)

/-- Two engines with the same active service and destinations that are alike. Where they are tables,
the other keys do not count; an array holds the two fields in order. -/
inductive EngineAlike : Value → Value → Prop where
  | same (value : Value) : EngineAlike value value
  | table {entries other : Entries}
      (active : Toml.said (.text "") "active_service" entries =
        Toml.said (.text "") "active_service" other)
      (named : NamedAlike (Toml.said (.table []) "service_destinations" entries)
        (Toml.said (.table []) "service_destinations" other)) :
      EngineAlike (.table entries) (.table other)
  | array {active named named' : Value} {rest : List Value} (alike : NamedAlike named named') :
      EngineAlike (.array (active :: named :: rest)) (.array (active :: named' :: rest))

/-- Two documents with engines that are alike; the other keys do not count. -/
def DocumentAlike (document other : Entries) : Prop :=
  EngineAlike (Toml.said (.table []) "engine" document) (Toml.said (.table []) "engine" other)

namespace Destinations

variable {all other : Destinations} {named : List (String × Destination)} {name : String}

theorem lookup_ofList (once : (named.map Prod.fst).Nodup) :
    (ofList named).lookup name = named.lookup name := by
  apply Option.ext
  intro destination
  rw [(ordered_ofList named).lookup, lookup_eq_some_iff_mem once, (perm_ofList once).mem_iff]

/-- Destinations in the order of their names are known by what stands under each name. -/
theorem Ordered.eq_of_lookup (ordered : all.Ordered) (reordered : other.Ordered)
    (same : ∀ name, all.lookup name = other.lookup name) : all = other := by
  apply ordered.eq_of_perm reordered
  rw [List.perm_ext_iff_of_nodup ordered.nodup.of_map reordered.nodup.of_map]
  rintro ⟨name, destination⟩
  rw [← ordered.lookup, ← reordered.lookup, same]

end Destinations

namespace EngineConfig

variable {entries other : Entries} {value value' : Value} {destinations : Destinations}

theorem textField_said (key : String) :
    textField (some (Toml.said (.text "") key entries)) = textField (Toml.get? entries key) := by
  unfold Toml.said
  cases Toml.get? entries key <;> rfl

theorem destinationsOf_said (key : String) :
    destinationsOf (some (Toml.said (.table []) key entries)) =
      destinationsOf (Toml.get? entries key) := by
  unfold Toml.said
  cases Toml.get? entries key <;> rfl

theorem ofValue_said (document : Entries) :
    ofValue (Toml.said (.table []) "engine" document) = ofDocument document := by
  unfold Toml.said ofDocument
  cases Toml.get? document "engine" <;> rfl

/-! ## Destinations -/

theorem destinationOf_table (entries : Entries) :
    destinationOf (.table entries) =
      (textField (Toml.get? entries "uri")).bind fun uri =>
        (textField (Toml.get? entries "identity")).bind fun identity =>
          some { uri, identity } := rfl

theorem destinationOf_congr (alike : DestinationAlike value value') :
    destinationOf value = destinationOf value' := by
  cases alike with
  | same => rfl
  | table alike =>
    have uri := alike "uri" (by simp)
    have identity := alike "identity" (by simp)
    rw [destinationOf_table, destinationOf_table, ← textField_said "uri",
      ← textField_said "identity", uri, identity, textField_said, textField_said]

theorem map_destinationOf_congr {held held' : Option Value}
    (alike : Option.Rel DestinationAlike held held') :
    held.map destinationOf = held'.map destinationOf := by
  cases alike with
  | none => rfl
  | some alike => rw [Option.map_some, Option.map_some, destinationOf_congr alike]

theorem destinationOf_of_mistyped {key : String} (field : key ∈ ["uri", "identity"])
    (held : Toml.get? entries key = some value) (mistyped : ∀ content, value ≠ .text content) :
    destinationOf (.table entries) = none := by
  have refused : textField (some value) = none := by
    cases value with
    | text content => exact absurd rfl (mistyped content)
    | integer | float | boolean | datetime | array | table => rfl
  rw [destinationOf_table]
  simp only [List.mem_cons, List.not_mem_nil, or_false] at field
  rcases field with rfl | rfl
  · rw [held, refused]
    rfl
  · rw [held, refused]
    cases textField (Toml.get? entries "uri") <;> rfl

/-- A list of entries is read where each of them is. -/
theorem exists_mapM {α β : Type} {f : α → Option β} {all : List α}
    (each : ∀ x ∈ all, ∃ y, f x = some y) : ∃ made, all.mapM f = some made := by
  induction all with
  | nil => exact ⟨[], rfl⟩
  | cons x rest ih =>
    obtain ⟨y, first⟩ := each x List.mem_cons_self
    obtain ⟨made, done⟩ := ih fun z member => each z (List.mem_cons_of_mem x member)
    exact ⟨y :: made, mapM_cons_eq_some_iff.2 ⟨y, made, first, done, rfl⟩⟩

theorem lookup_of_mapM {named : List (String × Destination)}
    (read : (entries.mapM fun (entry : String × Value) =>
      (destinationOf entry.2).map fun destination => (entry.1, destination)) = some named)
    (name : String) : (entries.lookup name).map destinationOf = (named.lookup name).map some := by
  induction entries generalizing named with
  | nil =>
    cases read
    rfl
  | cons entry entries ih =>
    obtain ⟨first, rest, given, tail, rfl⟩ := mapM_cons_eq_some_iff.1 read
    obtain ⟨destination, found, rfl⟩ := Option.map_eq_some_iff.1 given
    rw [lookup_cons_eq_ite, lookup_cons_eq_ite]
    split
    · rw [Option.map_some, Option.map_some, found]
    · exact ih tail

/-- **Destinations are read name by name.** A table gives destinations exactly if it gives one under
each of its names. -/
theorem destinationsOf_table_eq_some_iff (once : (entries.map Prod.fst).Nodup) :
    destinationsOf (some (.table entries)) = some destinations ↔
      destinations.Ordered ∧ ∀ name,
        (entries.lookup name).map destinationOf = (destinations.lookup name).map some := by
  constructor
  · intro read
    obtain ⟨named, given, rfl⟩ := Option.map_eq_some_iff.1 read
    refine ⟨Destinations.ordered_ofList named, fun name => ?_⟩
    rw [Destinations.lookup_ofList (keys_of_mapM given ▸ once)]
    exact lookup_of_mapM given name
  · rintro ⟨ordered, same⟩
    have each : ∀ entry ∈ entries, ∃ made, ((destinationOf entry.2).map
        fun destination => (entry.1, destination)) = some made := by
      rintro ⟨name, value⟩ member
      have here := same name
      rw [(lookup_eq_some_iff_mem once).2 member, Option.map_some] at here
      obtain ⟨destination, -, given⟩ := Option.map_eq_some_iff.1 here.symm
      exact ⟨(name, destination), by rw [← given]; rfl⟩
    obtain ⟨named, given⟩ := exists_mapM each
    refine Option.map_eq_some_iff.2 ⟨named, given, ?_⟩
    apply (Destinations.ordered_ofList named).eq_of_lookup ordered
    intro name
    apply Option.map_injective (Option.some_injective Destination)
    rw [← same, Destinations.lookup_ofList (keys_of_mapM given ▸ once), lookup_of_mapM given]

theorem destinationsOf_congr (alike : NamedAlike value value') (tidy : value.Tidy)
    (tidy' : value'.Tidy) : destinationsOf (some value) = destinationsOf (some value') := by
  cases alike with
  | same => rfl
  | @table entries other alike =>
    have once := (Value.tidy_table_iff.1 tidy).once
    have once' := (Value.tidy_table_iff.1 tidy').once
    have same : ∀ name, (entries.lookup name).map destinationOf =
        (other.lookup name).map destinationOf := fun name => map_destinationOf_congr (alike name)
    apply Option.ext
    intro destinations
    rw [destinationsOf_table_eq_some_iff once, destinationsOf_table_eq_some_iff once']
    simp only [same]

theorem destinationsOf_of_spoilt {name : String} (once : (entries.map Prod.fst).Nodup)
    (held : Toml.get? entries name = some value) (spoilt : destinationOf value = none) :
    destinationsOf (some (.table entries)) = none := by
  rw [Option.eq_none_iff_forall_ne_some]
  intro destinations read
  have named := ((destinationsOf_table_eq_some_iff once).1 read).2 name
  unfold Toml.get? at held
  rw [held, Option.map_some, spoilt] at named
  obtain ⟨destination, -, some⟩ := Option.map_eq_some_iff.1 named.symm
  cases some

/-! ## Documents -/

theorem tidy_said {key : String} {blank : Value} (tidy : (Value.table entries).Tidy)
    (blank_tidy : blank.Tidy) : (Toml.said blank key entries).Tidy := by
  unfold Toml.said
  cases held : Toml.get? entries key with
  | none => exact blank_tidy
  | some value => exact (Value.tidy_table_iff.1 tidy).lookup held

theorem tidy_blank : (Value.table []).Tidy := .table List.nodup_nil nofun

theorem ofValue_table (entries : Entries) :
    ofValue (.table entries) =
      (textField (Toml.get? entries "active_service")).bind fun activeService =>
        (destinationsOf (Toml.get? entries "service_destinations")).bind fun destinations =>
          some { activeService, destinations } := rfl

theorem ofValue_array (active named : Value) (rest : List Value) :
    ofValue (.array (active :: named :: rest)) =
      (textField (some active)).bind fun activeService =>
        (destinationsOf (some named)).bind fun destinations =>
          some { activeService, destinations } := rfl

theorem ofValue_congr (alike : EngineAlike value value') (tidy : value.Tidy)
    (tidy' : value'.Tidy) : ofValue value = ofValue value' := by
  cases alike with
  | same => rfl
  | @table entries other active named =>
    have destinations := destinationsOf_congr named (tidy_said tidy tidy_blank)
      (tidy_said tidy' tidy_blank)
    rw [destinationsOf_said, destinationsOf_said] at destinations
    rw [ofValue_table, ofValue_table, ← textField_said "active_service", active, textField_said,
      destinations]
  | @array active named named' rest alike =>
    have inner {items : List Value} (tidy : (Value.array items).Tidy) :
        ∀ item ∈ items, item.Tidy := by
      cases tidy with
      | array inner => exact inner
    have destinations := destinationsOf_congr alike (inner tidy named (by simp))
      (inner tidy' named' (by simp))
    rw [ofValue_array, ofValue_array, destinations]

theorem read?_eq_ofDocument {text : String} {document : Entries}
    (parsed : Toml.readDocument text = some document) : read? text = ofDocument document := by
  unfold read?
  rw [parsed]
  rfl

/-- What of a document is interpreted, and how strictly. -/
structure Interprets : Prop where
  /-- Documents that agree in all that counts give the same configuration, or none. -/
  alike : ∀ text other document document', Toml.readDocument text = some document →
    Toml.readDocument other = some document' → DocumentAlike document document' →
      read? text = read? other
  /-- One destination with a URI or an identity that is no text spoils the document. -/
  strict : ∀ text active named, Writes text active (some (.table named)) →
    ∀ name entries, Toml.get? named name = some (.table entries) →
      ∀ key ∈ ["uri", "identity"], ∀ value, Toml.get? entries key = some value →
        (∀ content, value ≠ .text content) → read? text = none
  /-- A text without a configuration is what makes a document malformed. -/
  malformed : ∀ files path text, Files.read files path = .ok text →
    (read? text = none ↔ ∃ reason, readDocument files path = .error (.malformed path reason))

/-- **Only the engine's two keys are interpreted.** -/
theorem only_engine_counts : Interprets where
  alike text other document document' parsed parsed' alike := by
    have tidy := Value.tidy_table_iff.2 (Toml.keyed_readDocument parsed)
    have tidy' := Value.tidy_table_iff.2 (Toml.keyed_readDocument parsed')
    rw [read?_eq_ofDocument parsed, read?_eq_ofDocument parsed', ← ofValue_said,
      ← ofValue_said]
    exact ofValue_congr alike (tidy_said tidy tidy_blank) (tidy_said tidy' tidy_blank)
  strict text active named writes name entries held key field value found mistyped := by
    rw [Option.eq_none_iff_forall_ne_some]
    intro config read
    have destinations := (writes.read?.1 read).2
    have spoilt := destinationOf_of_mistyped field found mistyped
    rw [destinationsOf_of_spoilt writes.once held spoilt] at destinations
    cases destinations
  malformed files path text held := by
    unfold readDocument
    rw [held]
    dsimp only
    cases read? text with
    | none => exact ⟨fun _ => ⟨_, rfl⟩, fun _ => rfl⟩
    | some config => exact ⟨nofun, fun ⟨_, failed⟩ => nomatch failed⟩

/-- Other keys count for nothing, and what is left out is blank. -/
example :
    read? "rt = [1]\n[engine.service_destinations.a]\nuri = \"unix:///a\"\nextra = true\n" =
      some { activeService := "", destinations := [("a", ⟨"unix:///a", ""⟩)] } := by
  decide +kernel

end EngineConfig

end Gangway
