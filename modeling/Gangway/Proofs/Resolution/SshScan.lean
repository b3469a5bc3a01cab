import Gangway.Files.Snapshot
import Gangway.Proofs.Resolution.Sources

/-!
# Which documents an ssh destination is found in

The scan for an ssh destination asks each document for the one destination that serves ssh, and only
then whether it has an identity. A document in which a destination without an identity comes first,
because it is active or by its name, is passed over even if it holds a complete one: it is
`Overshadowed`. `findsComplete_iff` says when this makes a difference, and
`not_findsComplete_overshadowed` that it can.
-/

namespace Gangway

/-- The destination is reached by ssh and has an identity to offer. -/
def Destination.IsComplete (destination : Destination) : Prop :=
  Transport.ssh.carries destination.uri = true ∧ destination.identity ≠ ""

namespace EngineConfig

/-- Some destination of the document is complete. -/
def HoldsComplete (config : EngineConfig) : Prop :=
  ∃ named ∈ config.destinations, named.2.IsComplete

/-- The destination that serves ssh, because it is active or because of its name, lacks an
identity. -/
def Overshadowed (config : EngineConfig) : Prop :=
  ∃ destination, config.Serves .ssh destination ∧ destination.identity = ""

theorem Serves.carried {config : EngineConfig} {transport : Transport} {destination : Destination}
    (serves : config.Serves transport destination) :
    transport.carries destination.uri = true := by
  cases serves with
  | active _ carried => exact carried
  | least _ _ _ carried _ => exact carried

theorem Serves.mem {config : EngineConfig} {transport : Transport} {destination : Destination}
    (serves : config.Serves transport destination) :
    ∃ name, (name, destination) ∈ config.destinations := by
  cases serves with
  | active named _ => exact ⟨_, named⟩
  | least name _ named _ _ => exact ⟨name, named⟩

/-- Some destination serves ssh as soon as one is complete. -/
theorem HoldsComplete.exists_serves {config : EngineConfig}
    (ordered : config.destinations.Ordered) (complete : config.HoldsComplete) :
    ∃ destination, config.Serves .ssh destination := by
  obtain ⟨named, member, carried, -⟩ := complete
  cases chosen : config.destinationFor .ssh with
  | some destination => exact ⟨destination, (destinationFor_eq_some_iff ordered).1 chosen⟩
  | none => exact absurd carried (by simp [destinationFor_eq_none_iff.1 chosen named member])

end EngineConfig

theorem Transport.ne_empty_of_carries {transport : Transport} {uri : String}
    (carried : transport.carries uri = true) : uri ≠ "" := by
  rintro rfl
  cases carried

namespace Resolver

variable {resolver : Resolver}

theorem sshIn?_eq_some_iff {path : String} {found : SshDestination} :
    resolver.sshIn? path = some found ↔ ∃ destination, resolver.Offers .ssh path destination ∧
      destination.identity ≠ "" ∧ found = ⟨destination.uri, destination.identity, path⟩ := by
  unfold sshIn?
  simp only [bind, Option.bind_eq_some_iff, destinationIn?_eq_some_iff]
  refine exists_congr fun destination => and_congr_right fun offers => ?_
  obtain ⟨config, holds, chosen⟩ := offers
  have named : destination.uri ≠ "" := Transport.ne_empty_of_carries
    ((EngineConfig.destinationFor_eq_some_iff holds.ordered).1 chosen).carried
  by_cases bare : destination.identity = ""
  · simp [bare]
  · have kept : (destination.uri.isEmpty || destination.identity.isEmpty) = false := by
      simp [named, bare]
    rw [kept]
    constructor
    · rintro ⟨⟩
      exact ⟨bare, rfl⟩
    · rintro ⟨-, rfl⟩
      rfl

/-- A document is passed over exactly when what it holds complete is overshadowed. -/
theorem sshIn?_eq_none_iff {path : String} :
    resolver.sshIn? path = none ↔ ∀ config, resolver.files.Holds path config →
      config.HoldsComplete → config.Overshadowed := by
  constructor
  · intro passed config holds complete
    obtain ⟨destination, serves⟩ := complete.exists_serves holds.ordered
    refine ⟨destination, serves, ?_⟩
    by_contra identity
    have chosen := (EngineConfig.destinationFor_eq_some_iff holds.ordered).2 serves
    have found := sshIn?_eq_some_iff.2 ⟨destination, ⟨config, holds, chosen⟩, identity, rfl⟩
    rw [passed] at found
    cases found
  · intro overshadowed
    rw [Option.eq_none_iff_forall_ne_some]
    intro found given
    obtain ⟨destination, ⟨config, holds, chosen⟩, identity, -⟩ := sshIn?_eq_some_iff.1 given
    have serves := (EngineConfig.destinationFor_eq_some_iff holds.ordered).1 chosen
    obtain ⟨name, member⟩ := serves.mem
    -- Only one destination serves ssh, so the one that was found would lack an identity.
    obtain ⟨other, serves', bare⟩ :=
      overshadowed config holds ⟨_, member, serves.carried, identity⟩
    have chosen' := (EngineConfig.destinationFor_eq_some_iff holds.ordered).2 serves'
    rw [chosen] at chosen'
    cases chosen'
    exact identity bare

/-- No ssh destination is found. -/
def FindsNoSsh (resolver : Resolver) : Prop :=
  ∃ searched, resolver.resolveSsh = .error (.noSshCandidate searched)

/-- Nothing is found exactly when no document holds a complete destination. -/
def FindsComplete (resolver : Resolver) : Prop :=
  resolver.FindsNoSsh ↔ ∀ path ∈ resolver.sources.documents, ∀ config,
    resolver.files.Holds path config → ¬ config.HoldsComplete

theorem findsNoSsh_iff :
    resolver.FindsNoSsh ↔ ∀ path ∈ resolver.sources.documents, ∀ config,
      resolver.files.Holds path config → config.HoldsComplete → config.Overshadowed := by
  simp only [← sshIn?_eq_none_iff, ← List.findSome?_eq_none_iff]
  unfold FindsNoSsh resolveSsh
  cases resolver.sources.documents.findSome? resolver.sshIn? with
  | none => simp
  | some destination => simp

/-- **When no complete ssh destination is overlooked.** Nothing is found exactly when every complete
destination is overshadowed in its document. So the search is complete unless there are complete
destinations, and all documents that hold one overshadow it. -/
theorem findsComplete_iff (resolver : Resolver) :
    (resolver.FindsNoSsh ↔ ∀ path ∈ resolver.sources.documents, ∀ config,
      resolver.files.Holds path config → config.HoldsComplete → config.Overshadowed) ∧
    (resolver.FindsComplete ↔
      ((∃ path ∈ resolver.sources.documents, ∃ config,
        resolver.files.Holds path config ∧ config.HoldsComplete) →
      ∃ path ∈ resolver.sources.documents, ∃ config,
        resolver.files.Holds path config ∧ config.HoldsComplete ∧ ¬ config.Overshadowed)) := by
  refine ⟨findsNoSsh_iff, ?_⟩
  rw [FindsComplete, findsNoSsh_iff]
  constructor
  · rintro finds ⟨path, member, config, holds, complete⟩
    by_contra none
    refine finds.1 (fun path' member' config' holds' complete' => ?_) path member config holds
      complete
    by_contra visible
    exact none ⟨path', member', config', holds', complete', visible⟩
  · intro visible
    constructor
    · intro overshadowed path member config holds complete
      obtain ⟨path', member', config', holds', complete', visible'⟩ :=
        visible ⟨path, member, config, holds, complete⟩
      exact visible' (overshadowed path' member' config' holds' complete')
    · intro none path member config holds complete
      exact absurd complete (none path member config holds)

/-- A document whose active destination has no identity, next to a complete one. -/
def overshadowedDocument : String :=
  "[engine]\nactive_service = \"a\"\n[engine.service_destinations.a]\nuri = \"ssh://a/s\"\n" ++
    "[engine.service_destinations.b]\nuri = \"ssh://b/s\"\nidentity = \"k\"\n"

/-- A resolver over that document alone. -/
def overshadowedResolver : Resolver where
  environment := { get? := fun _ => none }
  files := Snapshot.files [⟨"a.conf", true, .ok overshadowedDocument⟩]
  sources := { documents := ["a.conf"] }

theorem not_findsComplete_overshadowed : ¬ overshadowedResolver.FindsComplete := by
  let config : EngineConfig := ⟨"a", [("a", ⟨"ssh://a/s", ""⟩), ("b", ⟨"ssh://b/s", "k"⟩)]⟩
  have holds : overshadowedResolver.files.Holds "a.conf" config :=
    ⟨_, Snapshot.read_files_single "a.conf" true _, by decide +kernel⟩
  have complete : config.HoldsComplete :=
    ⟨("b", ⟨"ssh://b/s", "k"⟩), by decide, by decide +kernel, by decide⟩
  have overshadowed : config.Overshadowed :=
    ⟨⟨"ssh://a/s", ""⟩, .active (by decide) (by decide +kernel), rfl⟩
  intro finds
  refine finds.1 (findsNoSsh_iff.2 fun path member config' holds' _ => ?_) "a.conf"
    List.mem_cons_self config holds complete
  cases List.mem_singleton.1 member
  exact holds.unique holds' ▸ overshadowed

end Resolver

end Gangway
