import Gangway.Engine.Destinations
import Mathlib.Data.String.Basic

/-!
# Which destination of a document serves a transport

The destinations of a document stand in the order of their names, each name once
(`EngineConfig.ordered_of_read?`). On such a list the first hit is the one of least name, so that
`destinationFor` can be told without the list's order: `EngineConfig.Serves`.
-/

namespace Gangway

namespace Destinations

/-- The names increase strictly; in particular, no name stands twice. -/
def Ordered (all : Destinations) : Prop := all.Pairwise (·.1 < ·.1)

theorem mem_insert {name : String} {destination : Destination} {all : Destinations}
    {named : String × Destination} (h : named ∈ all.insert name destination) :
    named = (name, destination) ∨ named ∈ all := by
  induction all with
  | nil => exact Or.inl (List.mem_singleton.1 h)
  | cons head rest ih =>
    obtain ⟨n, d⟩ := head
    rw [insert] at h
    split at h
    · rcases List.mem_cons.1 h with rfl | old
      · exact Or.inl rfl
      · exact Or.inr (List.mem_cons_of_mem _ old)
    · split at h
      · exact List.mem_cons.1 h
      · rcases List.mem_cons.1 h with rfl | new
        · exact Or.inr List.mem_cons_self
        · exact (ih new).imp_right (List.mem_cons_of_mem _)

theorem Ordered.insert {all : Destinations} (ordered : Ordered all) (name : String)
    (destination : Destination) : Ordered (all.insert name destination) := by
  induction all with
  | nil => exact List.pairwise_singleton _ _
  | cons head rest ih =>
    obtain ⟨n, d⟩ := head
    obtain ⟨before, tail⟩ := List.pairwise_cons.1 ordered
    rw [Destinations.insert]
    split
    case isTrue same =>
      subst same
      exact List.pairwise_cons.2 ⟨before, tail⟩
    case isFalse different =>
      split
      case isTrue less =>
        refine List.pairwise_cons.2 ⟨fun named member => ?_, ordered⟩
        rcases List.mem_cons.1 member with rfl | later
        · exact less
        · exact lt_trans less (before named later)
      case isFalse notLess =>
        have greater : n < name := lt_of_le_of_ne (not_lt.1 notLess) (Ne.symm different)
        refine List.pairwise_cons.2 ⟨fun named member => ?_, ih tail⟩
        rcases mem_insert member with rfl | later
        · exact greater
        · exact before named later

theorem ordered_ofList (named : List (String × Destination)) : Ordered (ofList named) :=
  List.foldlRecOn named _ List.Pairwise.nil fun _ ordered entry _ =>
    ordered.insert entry.1 entry.2

theorem mem_of_lookup {all : Destinations} {name : String} {destination : Destination}
    (found : all.lookup name = some destination) : (name, destination) ∈ all := by
  obtain ⟨before, after, rfl, -⟩ := List.lookup_eq_some_iff.1 found
  exact List.mem_append_right _ List.mem_cons_self

theorem Ordered.lookup {all : Destinations} (ordered : Ordered all) {name : String}
    {destination : Destination} :
    all.lookup name = some destination ↔ (name, destination) ∈ all := by
  refine ⟨mem_of_lookup, fun member => ?_⟩
  obtain ⟨before, after, rfl⟩ := List.append_of_mem member
  refine List.lookup_eq_some_iff.2 ⟨before, after, rfl, fun earlier h => ?_⟩
  have less : earlier.1 < name :=
    (List.pairwise_append.1 ordered).2.2 earlier h _ List.mem_cons_self
  exact bne_iff_ne.2 less.ne'

/-- On an ordered list the first hit is the one of least name. -/
theorem Ordered.find? {all : Destinations} (ordered : Ordered all)
    {p : String × Destination → Bool} {named : String × Destination} :
    all.find? p = some named ↔
      named ∈ all ∧ p named = true ∧ ∀ other ∈ all, p other = true → named.1 ≤ other.1 := by
  constructor
  · intro found
    obtain ⟨holds, before, after, rfl, misses⟩ := List.find?_eq_some_iff_append.1 found
    refine ⟨List.mem_append_right _ List.mem_cons_self, holds, fun other member hit => ?_⟩
    rcases List.mem_append.1 member with earlier | later
    · exact absurd hit (by simpa using misses other earlier)
    · rcases List.mem_cons.1 later with rfl | after'
      · exact le_refl _
      · have tail := (List.pairwise_append.1 ordered).2.1
        exact ((List.pairwise_cons.1 tail).1 other after').le
  · rintro ⟨member, holds, least⟩
    obtain ⟨before, after, rfl⟩ := List.append_of_mem member
    refine List.find?_eq_some_iff_append.2 ⟨holds, before, after, rfl, fun earlier h => ?_⟩
    have less : earlier.1 < named.1 :=
      (List.pairwise_append.1 ordered).2.2 earlier h _ List.mem_cons_self
    have missed : ¬ p earlier = true := fun hit =>
      absurd less (not_lt.2 (least earlier (List.mem_append_left _ h) hit))
    simpa using missed

end Destinations

namespace EngineConfig

/-- The destination that serves a transport: the active one, or, where that does not use the
transport, the one of least name that does. -/
inductive Serves (config : EngineConfig) (transport : Transport) (destination : Destination) :
    Prop where
  | active (named : (config.activeService, destination) ∈ config.destinations)
      (carried : transport.carries destination.uri = true)
  | least (name : String)
      (inactive : ∀ other, (config.activeService, other) ∈ config.destinations →
        transport.carries other.uri = false)
      (named : (name, destination) ∈ config.destinations)
      (carried : transport.carries destination.uri = true)
      (first : ∀ other ∈ config.destinations, transport.carries other.2.uri = true →
        name ≤ other.1)

theorem destinationFor_eq_some_iff {config : EngineConfig} (ordered : config.destinations.Ordered)
    {transport : Transport} {destination : Destination} :
    config.destinationFor transport = some destination ↔
      config.Serves transport destination := by
  unfold destinationFor
  cases active : (config.destinations.lookup config.activeService).filter
      (transport.carries ·.uri) with
  | some chosen =>
    obtain ⟨found, carried⟩ := Option.filter_eq_some_iff.1 active
    have member := ordered.lookup.1 found
    constructor
    · rintro ⟨⟩
      exact .active member carried
    · rintro (⟨named, -⟩ | ⟨-, inactive, -⟩)
      · rw [← found, ordered.lookup.2 named]
      · exact absurd carried (by simp [inactive chosen member])
  | none =>
    -- Nothing has the name of the active service, or what has it does not use the transport.
    have inactive (other : Destination)
        (named : (config.activeService, other) ∈ config.destinations) :
        transport.carries other.uri = false := by
      rw [ordered.lookup.2 named] at active
      simpa using Option.filter_eq_none_iff.1 active
    constructor
    · intro least
      obtain ⟨⟨name, _⟩, found, rfl⟩ := Option.map_eq_some_iff.1 least
      obtain ⟨named, carried, first⟩ := ordered.find?.1 found
      exact .least name inactive named carried first
    · rintro (⟨named, carried⟩ | ⟨name, -, named, carried, first⟩)
      · exact absurd carried (by simp [inactive destination named])
      · exact Option.map_eq_some_iff.2 ⟨(name, destination),
          ordered.find?.2 ⟨named, carried, first⟩, rfl⟩

theorem destinationFor_eq_none_iff {config : EngineConfig} {transport : Transport} :
    config.destinationFor transport = none ↔
      ∀ named ∈ config.destinations, transport.carries named.2.uri = false := by
  unfold destinationFor
  cases active : (config.destinations.lookup config.activeService).filter
      (transport.carries ·.uri) with
  | some chosen =>
    obtain ⟨found, carried⟩ := Option.filter_eq_some_iff.1 active
    have member := Destinations.mem_of_lookup found
    refine ⟨nofun, fun none => ?_⟩
    exact absurd carried (by simp [none _ member])
  | none => simp

theorem ordered_of_destinationsOf {value : Option Toml.Value} {destinations : Destinations}
    (read : destinationsOf value = some destinations) : destinations.Ordered := by
  unfold destinationsOf at read
  split at read
  · cases read
    exact List.Pairwise.nil
  · obtain ⟨named, -, rfl⟩ := Option.map_eq_some_iff.1 read
    exact Destinations.ordered_ofList named
  · cases read

theorem ordered_of_ofValue {value : Toml.Value} {config : EngineConfig}
    (read : ofValue value = some config) : config.destinations.Ordered := by
  unfold ofValue at read
  obtain ⟨fields, -, rest⟩ := Option.bind_eq_some_iff.1 read
  split at rest
  · obtain ⟨activeService, -, rest⟩ := Option.bind_eq_some_iff.1 rest
    obtain ⟨destinations, named, rest⟩ := Option.bind_eq_some_iff.1 rest
    cases rest
    exact ordered_of_destinationsOf named
  · cases rest

/-- The destinations of a document stand in the order of their names. -/
theorem ordered_of_read? {content : String} {config : EngineConfig}
    (parsed : read? content = some config) : config.destinations.Ordered := by
  obtain ⟨document, -, read⟩ := Option.bind_eq_some_iff.1 parsed
  unfold ofDocument at read
  split at read
  · cases read
    exact List.Pairwise.nil
  · exact ordered_of_ofValue read

end EngineConfig

end Gangway
