import Gangway.Proofs.Resolution.Schemes
import Gangway.Proofs.Text.ByteOrder
import Gangway.Proofs.Toml.Keys
import Mathlib.Data.List.Induction

/-!
# The choice among destinations

A transport is served by the active destination where its URI has the scheme of the transport, and
by the one of least name with such a URI where it has not (`EngineConfig.selects`). Names are
compared byte by byte. Neither the order in which destinations are stored nor the one in which a
document writes them makes a difference, and no more does the name of a service that cannot be
chosen.
-/

namespace Gangway

open Toml (Value Entries)

variable {transport : Transport}

/-- The URI begins with the scheme of the transport and `://`. -/
def Transport.Heads (transport : Transport) (uri : String) : Prop :=
  (transport.scheme ++ "://").toList <+: uri.toList

theorem Transport.carries_iff_heads {uri : String} :
    transport.carries uri = true ↔ transport.Heads uri := by
  have mark : (transport.scheme ++ "://").toList = transport.scheme.toList ++ schemeMark :=
    String.toList_append
  rw [Heads, mark]
  refine ⟨isPrefix_of_carries, ?_⟩
  rintro ⟨rest, split⟩
  have first : ¬schemeMark <:+: transport.scheme.toList ++ schemeMark.dropLast := by
    cases transport <;> decide
  have cut := Text.splitOnce_append (by decide) first rest
  rw [split] at cut
  rw [carries, cut]
  exact beq_self_eq_true _

theorem Transport.carries_eq_false_iff {uri : String} :
    transport.carries uri = false ↔ ¬transport.Heads uri := by
  rw [← carries_iff_heads, Bool.not_eq_true]

namespace Destinations

variable {all : Destinations} {named : List (String × Destination)}

theorem Ordered.nodup (ordered : all.Ordered) : (all.map Prod.fst).Nodup :=
  List.pairwise_map.2 (ordered.imp ne_of_lt)

/-- The same destinations stand in one order only. -/
theorem Ordered.eq_of_perm (ordered : all.Ordered) {other : Destinations}
    (reordered : other.Ordered) (perm : all.Perm other) : all = other :=
  perm.eq_of_pairwise (fun _ _ _ _ less more => absurd (less.trans more) (lt_irrefl _)) ordered
    reordered

theorem perm_insert {name : String} {destination : Destination}
    (absent : name ∉ all.map Prod.fst) :
    (all.insert name destination).Perm ((name, destination) :: all) := by
  induction all with
  | nil => exact .refl _
  | cons head rest ih =>
    obtain ⟨n, d⟩ := head
    obtain ⟨different, fresh⟩ := not_or.1 (mt List.mem_cons.2 absent)
    rw [insert, if_neg different]
    split
    case isTrue => exact .refl _
    case isFalse => exact ((ih fresh).cons (n, d)).trans (.swap _ _ rest)

/-- Destinations of different names are stored as they are. -/
theorem perm_ofList (once : (named.map Prod.fst).Nodup) : (ofList named).Perm named := by
  induction named using List.reverseRecOn with
  | nil => exact .refl _
  | append_singleton front last ih =>
    rw [List.map_append, List.nodup_append_comm] at once
    obtain ⟨fresh, before⟩ := List.nodup_cons.1 once
    have stored := ih before
    have whole : ofList (front ++ [last]) = (ofList front).insert last.1 last.2 := by
      rw [ofList, List.foldl_append]
      rfl
    have absent : last.1 ∉ (ofList front).map Prod.fst :=
      fun member => fresh ((stored.map Prod.fst).mem_iff.1 member)
    have moved := (List.perm_append_singleton last front).symm
    rw [whole]
    exact (perm_insert absent).trans ((stored.cons last).trans moved)

/-- In whatever order destinations are stored, the same ones are held. -/
theorem Ordered.ofList_eq (ordered : all.Ordered) (perm : named.Perm all) : ofList named = all := by
  have once := (perm.map Prod.fst).nodup_iff.2 ordered.nodup
  exact (ordered_ofList named).eq_of_perm ordered ((perm_ofList once).trans perm)

/-- Of the destinations with the scheme of a transport, this is the one whose name has the least
bytes. -/
structure Leads (all : Destinations) (transport : Transport) (name : String)
    (destination : Destination) : Prop where
  named : (name, destination) ∈ all
  headed : transport.Heads destination.uri
  least : ∀ other ∈ all, transport.Heads other.2.uri → Text.utf8 name ≤ Text.utf8 other.1

/-- An empty name has the least bytes. -/
theorem leads_of_mem_empty {destination : Destination} (named : ("", destination) ∈ all)
    (headed : transport.Heads destination.uri) : all.Leads transport "" destination :=
  ⟨named, headed, fun other _ _ => List.nil_le (Text.utf8 other.1)⟩

theorem Leads.unique (ordered : all.Ordered) {name other : String} {one two : Destination}
    (first : all.Leads transport name one) (second : all.Leads transport other two) :
    one = two := by
  have least := Text.utf8_le_utf8_iff.1 (first.least _ second.named second.headed)
  have most := Text.utf8_le_utf8_iff.1 (second.least _ first.named first.headed)
  obtain rfl : name = other := le_antisymm least most
  exact Option.some.inj ((ordered.lookup.2 first.named).symm.trans (ordered.lookup.2 second.named))

end Destinations

namespace EngineConfig

variable {config : EngineConfig} {destination : Destination}

theorem destinationFor_of_active (ordered : config.destinations.Ordered)
    (named : (config.activeService, destination) ∈ config.destinations)
    (headed : transport.Heads destination.uri) :
    config.destinationFor transport = some destination :=
  (destinationFor_eq_some_iff ordered).2 (.active named (Transport.carries_iff_heads.2 headed))

/-- Where the active service cannot be chosen, the least name is. -/
theorem destinationFor_of_idle (ordered : config.destinations.Ordered)
    (idle : ∀ active, (config.activeService, active) ∈ config.destinations →
      ¬transport.Heads active.uri) :
    config.destinationFor transport = some destination ↔
      ∃ name, config.destinations.Leads transport name destination := by
  rw [destinationFor_eq_some_iff ordered]
  constructor
  · intro serves
    cases serves with
    | active named carried => exact absurd (Transport.carries_iff_heads.1 carried) (idle _ named)
    | least name _ named carried first =>
      refine ⟨name, named, Transport.carries_iff_heads.1 carried, fun other member headed => ?_⟩
      exact Text.utf8_le_utf8_iff.2 (first other member (Transport.carries_iff_heads.2 headed))
  · rintro ⟨name, named, headed, least⟩
    refine .least name (fun active member => Transport.carries_eq_false_iff.2 (idle active member))
      named (Transport.carries_iff_heads.2 headed) fun other member carried => ?_
    exact Text.utf8_le_utf8_iff.1 (least other member (Transport.carries_iff_heads.1 carried))

/-- Where no service is marked active, the least name is chosen. -/
theorem destinationFor_of_unnamed (ordered : config.destinations.Ordered)
    (unnamed : config.activeService = "") :
    config.destinationFor transport = some destination ↔
      ∃ name, config.destinations.Leads transport name destination := by
  by_cases idle : ∀ active, (config.activeService, active) ∈ config.destinations →
      ¬transport.Heads active.uri
  · exact destinationFor_of_idle ordered idle
  · push Not at idle
    -- The destination of the empty name is the active one and has the least name.
    obtain ⟨active, named, headed⟩ := idle
    have leads := Destinations.leads_of_mem_empty (unnamed ▸ named) headed
    rw [destinationFor_of_active ordered named headed, Option.some_inj]
    constructor
    · rintro rfl
      exact ⟨"", leads⟩
    · rintro ⟨name, first⟩
      exact leads.unique ordered first

theorem destinationFor_eq_none_iff_heads :
    config.destinationFor transport = none ↔
      ∀ named ∈ config.destinations, ¬transport.Heads named.2.uri := by
  simp only [destinationFor_eq_none_iff, Transport.carries_eq_false_iff]

/-! ## What a document writes -/

section Reading

variable {α β : Type} {f : α → Option β} {all other : List α} {made : List β}

/-- What is read item by item from reordered items is reordered. -/
theorem exists_mapM_of_perm (perm : all.Perm other) (done : all.mapM f = some made) :
    ∃ again, other.mapM f = some again ∧ made.Perm again := by
  induction perm generalizing made with
  | nil => exact ⟨made, done, .refl made⟩
  | cons x _ ih =>
    obtain ⟨first, rest, given, tail, rfl⟩ := mapM_cons_eq_some_iff.1 done
    obtain ⟨again, reread, same⟩ := ih tail
    exact ⟨first :: again, mapM_cons_eq_some_iff.2 ⟨first, again, given, reread, rfl⟩,
      same.cons first⟩
  | swap x y l =>
    obtain ⟨first, _, given, tail, rfl⟩ := mapM_cons_eq_some_iff.1 done
    obtain ⟨second, rest, next, behind, rfl⟩ := mapM_cons_eq_some_iff.1 tail
    have swapped := mapM_cons_eq_some_iff.2 ⟨first, rest, given, behind, rfl⟩
    exact ⟨second :: first :: rest, mapM_cons_eq_some_iff.2 ⟨second, _, next, swapped, rfl⟩,
      .swap second first rest⟩
  | trans _ _ one two =>
    obtain ⟨between, read, first⟩ := one done
    obtain ⟨again, reread, second⟩ := two read
    exact ⟨again, reread, first.trans second⟩

end Reading

/-- Under `engine` the document of a text holds this active service and these destinations. -/
def Writes (text : String) (active named : Option Value) : Prop :=
  ∃ document value, Toml.readDocument text = some document ∧
    Toml.get? document "engine" = some value ∧
      fields ["active_service", "service_destinations"] value = some [active, named]

theorem tidy_of_fields {names : List String} {value : Value} {found : List (Option Value)}
    (tidy : value.Tidy) (given : fields names value = some found) {field : Value}
    (member : some field ∈ found) : field.Tidy := by
  unfold fields at given
  split at given
  · cases given
    obtain ⟨name, -, held⟩ := List.mem_map.1 member
    exact (Value.tidy_table_iff.1 tidy).lookup held
  · cases given
    obtain ⟨i, -, held⟩ := List.mem_map.1 member
    cases tidy with
    | array inner => exact inner field (List.mem_of_getElem? held)
  · cases given
    obtain ⟨_, -, held⟩ := List.mem_map.1 member
    cases held
  · cases given

/-- In the table of destinations each name is written once. -/
theorem Writes.once {text : String} {active : Option Value} {entries : Entries}
    (writes : Writes text active (some (.table entries))) : (entries.map Prod.fst).Nodup := by
  obtain ⟨document, value, read, engine, given⟩ := writes
  have tidy := (Toml.keyed_readDocument read).lookup engine
  exact (Value.tidy_table_iff.1 (tidy_of_fields tidy given (by simp))).once

theorem Writes.read? {text : String} {active named : Option Value}
    (writes : Writes text active named) :
    read? text = some config ↔
      textField active = some config.activeService ∧
        destinationsOf named = some config.destinations := by
  obtain ⟨document, value, read, engine, given⟩ := writes
  obtain ⟨activeService, destinations⟩ := config
  simp [EngineConfig.read?, read, ofDocument, engine, ofValue, given, Option.bind_eq_some_iff]

theorem keys_of_mapM {entries : Entries} {named : List (String × Destination)}
    (read : (entries.mapM fun (entry : String × Value) =>
      (destinationOf entry.2).map fun destination => (entry.1, destination)) = some named) :
    named.map Prod.fst = entries.map Prod.fst := by
  induction entries generalizing named with
  | nil =>
    cases read
    rfl
  | cons entry entries ih =>
    obtain ⟨first, rest, given, tail, rfl⟩ := mapM_cons_eq_some_iff.1 read
    obtain ⟨destination, -, rfl⟩ := Option.map_eq_some_iff.1 given
    rw [List.map_cons, List.map_cons, ih tail]

/-- A table of destinations is read alike in whatever order it is written. -/
theorem destinationsOf_of_perm {entries other : Entries} {destinations : Destinations}
    (once : (entries.map Prod.fst).Nodup) (perm : entries.Perm other)
    (read : destinationsOf (some (.table entries)) = some destinations) :
    destinationsOf (some (.table other)) = some destinations := by
  obtain ⟨named, given, rfl⟩ := Option.map_eq_some_iff.1 read
  obtain ⟨again, reread, same⟩ := exists_mapM_of_perm perm given
  have distinct : (named.map Prod.fst).Nodup := keys_of_mapM given ▸ once
  have stored : (Destinations.ofList named).Perm named := Destinations.perm_ofList distinct
  refine Option.map_eq_some_iff.2 ⟨again, reread, ?_⟩
  exact (Destinations.ordered_ofList named).ofList_eq (same.symm.trans stored.symm)

/-! ## The choice -/

/-- How a configuration chooses a destination for a transport. -/
structure Selects (config : EngineConfig) (transport : Transport) : Prop where
  /-- A URI is of the transport if it begins with its scheme and `://`. -/
  carried : ∀ uri, transport.carries uri = true ↔ transport.Heads uri
  /-- The active destination is chosen if it is of the transport. -/
  active : ∀ destination, (config.activeService, destination) ∈ config.destinations →
    transport.Heads destination.uri → config.destinationFor transport = some destination
  /-- Otherwise it is the one of least name among those of the transport. -/
  least : (∀ active, (config.activeService, active) ∈ config.destinations →
      ¬transport.Heads active.uri) → ∀ destination,
    config.destinationFor transport = some destination ↔
      ∃ name, config.destinations.Leads transport name destination
  /-- None is chosen only where none is of the transport. -/
  none : config.destinationFor transport = none ↔
    ∀ named ∈ config.destinations, ¬transport.Heads named.2.uri
  /-- An empty name of the active service leaves the choice to the names, even if a destination has
  it. -/
  unnamed : config.activeService = "" → ∀ destination,
    config.destinationFor transport = some destination ↔
      ∃ name, config.destinations.Leads transport name destination
  /-- To name a service that is absent or not of the transport is to name none. -/
  idle : ∀ name, (∀ active, (name, active) ∈ config.destinations →
      ¬transport.Heads active.uri) →
    { config with activeService := name }.destinationFor transport =
      { config with activeService := "" }.destinationFor transport
  /-- In whatever order its destinations are stored, the configuration is the same. -/
  stored : ∀ named : List (String × Destination), named.Perm config.destinations →
    { config with destinations := Destinations.ofList named } = config
  /-- In whatever order its destinations are written, the configuration is the same. -/
  written : ∀ text active entries, Writes text active (some (.table entries)) →
    read? text = some config → ∀ other reordered,
      Writes other active (some (.table reordered)) → entries.Perm reordered →
        read? other = some config
  /-- An active service that is left out has an empty name. -/
  omitted : ∀ text named, Writes text .none named → read? text = some config →
    config.activeService = ""

/-- **The choice among destinations.** A configuration with its destinations in the order of their
names, such as every document gives (`ordered_of_read?`), chooses the active one where it is of the
transport, and otherwise the one of least name that is. -/
theorem selects (config : EngineConfig) (ordered : config.destinations.Ordered)
    (transport : Transport) : config.Selects transport where
  carried _ := Transport.carries_iff_heads
  active _ named headed := destinationFor_of_active ordered named headed
  least idle _ := destinationFor_of_idle ordered idle
  none := destinationFor_eq_none_iff_heads
  unnamed unnamed _ := destinationFor_of_unnamed ordered unnamed
  idle name idle := by
    have kept (service : String) :
        { config with activeService := service }.destinations.Ordered := ordered
    apply Option.ext
    intro destination
    exact (destinationFor_of_idle (kept name) idle).trans
      (destinationFor_of_unnamed (kept "") rfl).symm
  stored named perm := by
    rw [ordered.ofList_eq perm]
  written text active entries writes read other reordered rewrites perm := by
    obtain ⟨service, destinations⟩ := writes.read?.1 read
    exact rewrites.read?.2 ⟨service, destinationsOf_of_perm writes.once perm destinations⟩
  omitted text named writes read := (Option.some.inj (writes.read?.1 read).1).symm

/-- A configuration with an active service of the other transport, and a destination that has an
empty name. -/
def sparseConfig : EngineConfig :=
  ⟨"remote", [("", ⟨"ssh://core@a/s", "k"⟩), ("local", ⟨"unix:///run/s", ""⟩),
    ("remote", ⟨"ssh://core@b/s", "k"⟩)]⟩

theorem selects_sparseConfig :
    sparseConfig.destinations.Ordered ∧ sparseConfig.Selects .unix :=
  have ordered : sparseConfig.destinations.Ordered := by
    unfold Destinations.Ordered
    decide +kernel
  ⟨ordered, selects sparseConfig ordered .unix⟩

end EngineConfig

end Gangway
