import Gangway.Proofs.Connection.Building

/-!
# The connection facade

A run of connecting builds a client, if it can, and probes it once. `Facade` collects what every
such run keeps to: when the SSH path is entered, which steps a resolved unix address leaves open,
how many probes are sent, and which of the three ends comes of it. A blocking call that is refused
keeps to the same, as a run in which no client is built.
-/

namespace Gangway

variable {connector other : Connector} {world elsewhere : World} {client : EngineClient}
  {address : String} {source : Source} {exhausted : List Source}

/-- The engine behind a client answers a ping, and in time. -/
def EngineClient.Answers (client : EngineClient) : Prop :=
  ∃ text, client.ping.within (1000 * livenessSeconds) = some (.ok text)

/-- A probe succeeds exactly if the engine answers. -/
theorem EngineClient.probe_eq_ok_iff : client.probe = .ok () ↔ client.Answers := by
  unfold EngineClient.probe Gangway.probe EngineClient.Answers
  cases client.ping.within (1000 * livenessSeconds) with
  | none => simp
  | some answer => cases answer <;> simp

theorem EngineClient.exists_probe_eq_error_iff :
    (∃ error, client.probe = .error error) ↔ ¬client.Answers := by
  rw [← EngineClient.probe_eq_ok_iff]
  cases client.probe <;> simp

/-- Only someone who may be blocked, and is given what it takes to wait, is allowed to. -/
theorem Caller.blocking_or_refused (caller : Caller) :
    caller = .blocking ∨ caller ≠ .blocking ∧
      ∃ reason, caller.allow = .error (.runtimeCreationFailed reason) := by
  cases caller with
  | blocking => exact .inl rfl
  | concurrent => exact .inr ⟨nofun, _, rfl⟩
  | starved reason => exact .inr ⟨nofun, reason, rfl⟩

namespace Connector

theorem steps_build_of_resolved
    (resolved : connector.resolver.resolveUnix = .resolved address source) :
    ∀ taken ∈ (connector.build world).steps, taken = .resolveUnix ∨ taken = .client address := by
  intro taken member
  rw [build_of_resolved resolved] at member
  rcases List.mem_cons.1 member with rfl | member
  · exact .inl rfl
  · exact .inr (direct_within.step taken member)

/-- Building never probes. -/
theorem filter_isProbe_steps_build : (connector.build world).steps.filter Step.isProbe = [] := by
  rw [List.filter_eq_nil_iff]
  intro taken member
  cases found : connector.resolver.resolveUnix with
  | resolved address source =>
    rcases steps_build_of_resolved found taken member with rfl | rfl
    · exact Bool.false_ne_true
    · exact Bool.false_ne_true
  | noCandidate exhausted =>
    rw [build_of_unresolved found] at member
    rcases List.mem_cons.1 member with rfl | member
    · exact Bool.false_ne_true
    · rw [(tunnel_within.step taken member).1]
      exact Bool.false_ne_true

/-- The SSH path is entered exactly if there is no unix address. -/
theorem resolveSsh_mem_steps_build_iff :
    .resolveSsh ∈ (connector.build world).steps ↔
      ∃ exhausted, connector.resolver.resolveUnix = .noCandidate exhausted := by
  constructor
  · intro member
    cases found : connector.resolver.resolveUnix with
    | resolved address source =>
      rcases steps_build_of_resolved found _ member with same | same <;> cases same
    | noCandidate exhausted => exact ⟨exhausted, rfl⟩
  · rintro ⟨exhausted, unresolved⟩
    rw [build_of_unresolved unresolved]
    exact List.mem_cons_of_mem _ (Run.mem_steps_bind (List.mem_singleton_self _))

theorem ofBuilding_of_build_failed {error : Error}
    (failed : (connector.build world).outcome = .error error) : error.OfBuilding := by
  cases found : connector.resolver.resolveUnix with
  | resolved address source =>
    rw [build_of_resolved found] at failed
    exact direct_within.error error failed
  | noCandidate exhausted =>
    rw [build_of_unresolved found] at failed
    exact tunnel_within.error error failed

/-- A client that was built is probed, and nothing else is done with it. -/
theorem steps_connect_of_builds (built : Builds connector world client) :
    (connector.connect world).steps = (connector.build world).steps ++ [.probe client.address] := by
  have done : ((connector.build world).mapError ConnectFailure.build).outcome = .ok client :=
    mapError_eq_ok_iff.2 (build_outcome_eq_ok_iff.2 built)
  unfold connect
  rw [Run.bind_of_ok done]
  rfl

/-- Without a client connecting ends where building does. -/
theorem steps_connect_of_not_builds (none : ∀ client, ¬Builds connector world client) :
    (connector.connect world).steps = (connector.build world).steps := by
  cases done : (connector.build world).outcome with
  | ok client => exact absurd (build_outcome_eq_ok_iff.1 done) (none client)
  | error error =>
    have failed : ((connector.build world).mapError ConnectFailure.build).outcome =
        .error (.build error) := mapError_eq_error_iff.2 ⟨error, done, rfl⟩
    unfold connect
    rw [Run.bind_of_error failed]
    rfl

theorem mem_steps_connect_iff {taken : Step} :
    taken ∈ (connector.connect world).steps ↔
      taken ∈ (connector.build world).steps ∨
        ∃ client, Builds connector world client ∧ taken = .probe client.address := by
  by_cases some : ∃ client, Builds connector world client
  · obtain ⟨client, built⟩ := some
    rw [steps_connect_of_builds built, List.mem_append, List.mem_singleton]
    refine or_congr_right ⟨fun same => ⟨client, built, same⟩, ?_⟩
    rintro ⟨again, rebuilt, same⟩
    rw [same, rebuilt.unique built]
  · rw [steps_connect_of_not_builds (not_exists.1 some)]
    exact (or_iff_left fun ⟨client, built, _⟩ => some ⟨client, built⟩).symm

/-- Connecting succeeds exactly if a client is built and its engine answers. -/
theorem connect_outcome_eq_ok_iff :
    (connector.connect world).outcome = .ok client ↔
      Builds connector world client ∧ client.Answers := by
  simp only [connect, Run.outcome_bind_eq_ok_iff, Run.outcome_mapError, mapError_eq_ok_iff,
    build_outcome_eq_ok_iff, Run.outcome_step]
  constructor
  · rintro ⟨first, built, ends⟩
    split at ends
    case h_1 probed =>
      cases ends
      exact ⟨built, EngineClient.probe_eq_ok_iff.1 probed⟩
    case h_2 => cases ends
  · rintro ⟨built, answers⟩
    refine ⟨client, built, ?_⟩
    rw [EngineClient.probe_eq_ok_iff.2 answers]

/-- An unreachable engine is reported exactly if a client is built and its probe fails. -/
theorem connect_outcome_eq_unreachable_iff {error : EngineError} :
    (connector.connect world).outcome = .error (.unreachable client error) ↔
      Builds connector world client ∧ client.probe = .error error := by
  simp only [connect, Run.outcome_bind_eq_error_iff, Run.outcome_mapError, mapError_eq_ok_iff,
    mapError_eq_error_iff, build_outcome_eq_ok_iff, Run.outcome_step]
  constructor
  · rintro (⟨_, _, ends⟩ | ⟨first, built, ends⟩)
    · cases ends
    · split at ends
      case h_1 => cases ends
      case h_2 failure probed =>
        cases ends
        exact ⟨built, probed⟩
  · rintro ⟨built, probed⟩
    refine .inr ⟨client, built, ?_⟩
    rw [probed]

/-- Otherwise the error is that of building. -/
theorem connect_outcome_eq_build_iff {error : Error} :
    (connector.connect world).outcome = .error (.build error) ↔
      (connector.build world).outcome = .error error := by
  simp only [connect, Run.outcome_bind_eq_error_iff, Run.outcome_mapError, mapError_eq_ok_iff,
    mapError_eq_error_iff, Run.outcome_step]
  constructor
  · rintro (⟨cause, failed, same⟩ | ⟨first, _, ends⟩)
    · cases same
      exact failed
    · split at ends <;> cases ends
  · intro failed
    exact .inl ⟨error, failed, rfl⟩

theorem build_fails_iff :
    (∃ error, (connector.build world).outcome = .error error) ↔
      ∀ client, ¬Builds connector world client := by
  constructor
  · rintro ⟨error, failed⟩ client built
    rw [build_outcome_eq_ok_iff.2 built] at failed
    cases failed
  · intro none
    cases done : (connector.build world).outcome with
    | ok client => exact absurd (build_outcome_eq_ok_iff.1 done) (none client)
    | error error => exact ⟨error, rfl⟩

/-- What a run of connecting keeps to. It may be refused before it starts; `admitted` says that it
is not. -/
structure Facade (connector : Connector) (world : World) (admitted : Prop)
    (run : Run ConnectFailure EngineClient) : Prop where
  /-- The SSH path is entered exactly if there is no unix address. -/
  enters : .resolveSsh ∈ run.steps ↔
    admitted ∧ ∃ exhausted, connector.resolver.resolveUnix = .noCandidate exhausted
  /-- With a unix address nothing is done but setting up a client for it and probing it. -/
  stays : ∀ address source, connector.resolver.resolveUnix = .resolved address source →
    ∀ taken ∈ run.steps, taken = .resolveUnix ∨ taken = .client address ∨ taken = .probe address
  /-- A client that is built is probed once. -/
  probes : ∀ client, admitted ∧ Builds connector world client →
    run.steps.filter Step.isProbe = [.probe client.address]
  /-- Without a client nothing is probed. -/
  silent : (∀ client, ¬(admitted ∧ Builds connector world client)) →
    run.steps.filter Step.isProbe = []
  /-- The run succeeds exactly with a client whose engine answers. -/
  connected : ∀ client, run.outcome = .ok client ↔
    admitted ∧ Builds connector world client ∧ client.Answers
  /-- An unreachable engine is reported exactly with a client whose engine does not answer. -/
  unreachable : ∀ client, (∃ error, run.outcome = .error (.unreachable client error)) ↔
    admitted ∧ Builds connector world client ∧ ¬client.Answers
  /-- The report carries what the probe failed with. -/
  carries : ∀ client error, run.outcome = .error (.unreachable client error) →
    client.probe = .error error
  /-- In every other case no client is built. -/
  unbuilt : (∃ error, run.outcome = .error (.build error)) ↔
    ∀ client, ¬(admitted ∧ Builds connector world client)
  /-- Building blames neither the search for a unix address nor a probe. -/
  blames : ∀ error, run.outcome = .error (.build error) → error.OfBuilding
  /-- A client speaks to the unix address that was resolved. -/
  speaks : ∀ client, Builds connector world client → ∀ address source,
    connector.resolver.resolveUnix = .resolved address source → client.address = address
  /-- Behind a tunnel a client speaks to the relay. -/
  relays : ∀ client, Builds connector world client → ∀ exhausted,
    connector.resolver.resolveUnix = .noCandidate exhausted →
      ∃ socket, world.relay = .ok socket ∧ client.address = unixMark ++ socket

theorem connectBlocking_of_refused {caller : Caller} {error : EngineError}
    (refused : caller.allow = .error error) :
    connector.connectBlocking caller world = ⟨[], .error (.build (.engine error))⟩ := by
  unfold connectBlocking
  rw [refused]

/-- A call that is refused before any step. -/
theorem facade_of_refused {admitted : Prop} (refused : ¬admitted) {error : Error}
    (blames : error.OfBuilding) : Facade connector world admitted ⟨[], .error (.build error)⟩ where
  enters := ⟨nofun, fun entered => absurd entered.1 refused⟩
  stays _ _ _ _ := nofun
  probes _ built := absurd built.1 refused
  silent _ := rfl
  connected _ := ⟨nofun, fun built => absurd built.1 refused⟩
  unreachable _ := ⟨nofun, fun built => absurd built.1 refused⟩
  carries _ _ := nofun
  unbuilt := ⟨fun _ _ built => refused built.1, fun _ => ⟨error, rfl⟩⟩
  blames := by
    rintro _ ⟨⟩
    exact blames
  speaks _ built _ _ := built.address_of_resolved
  relays _ built _ := built.address_of_unresolved

/-- A run that is admitted. -/
theorem facade_of_admitted {admitted : Prop} (yes : admitted) :
    Facade connector world admitted (connector.connect world) where
  enters := by
    rw [mem_steps_connect_iff, resolveSsh_mem_steps_build_iff]
    constructor
    · rintro (unresolved | ⟨client, -, same⟩)
      · exact ⟨yes, unresolved⟩
      · cases same
    · exact fun entered => .inl entered.2
  stays address source resolved taken member := by
    rcases mem_steps_connect_iff.1 member with member | ⟨client, built, rfl⟩
    · exact (steps_build_of_resolved resolved taken member).imp_right .inl
    · rw [built.address_of_resolved resolved]
      exact .inr (.inr rfl)
  probes client built := by
    rw [steps_connect_of_builds built.2, List.filter_append, filter_isProbe_steps_build]
    rfl
  silent none := by
    rw [steps_connect_of_not_builds fun client built => none client ⟨yes, built⟩]
    exact filter_isProbe_steps_build
  connected client := by
    rw [connect_outcome_eq_ok_iff]
    exact (and_iff_right yes).symm
  unreachable client := by
    simp only [connect_outcome_eq_unreachable_iff, exists_and_left,
      EngineClient.exists_probe_eq_error_iff, yes, true_and]
  carries client error ends := (connect_outcome_eq_unreachable_iff.1 ends).2
  unbuilt := by
    simp only [connect_outcome_eq_build_iff, build_fails_iff, yes, true_and]
  blames error ends := ofBuilding_of_build_failed (connect_outcome_eq_build_iff.1 ends)
  speaks _ built _ _ := built.address_of_resolved
  relays _ built _ := built.address_of_unresolved

/-- Two connectors, each in its world, that resolve the same unix address, see the same paths and
reach the same engines. They may differ in the text of every file, in the trust in bastions, in the
bastions and in the relays. -/
structure SameLocally (connector other : Connector) (world elsewhere : World) : Prop where
  resolved : ∃ address source source', connector.resolver.resolveUnix = .resolved address source ∧
    other.resolver.resolveUnix = .resolved address source'
  present : other.resolver.files.present = connector.resolver.files.present
  engine : elsewhere.engine = world.engine

theorem SameLocally.direct_eq (same : SameLocally connector other world elsewhere)
    (address : String) : other.direct elsewhere address = connector.direct world address := by
  unfold direct Client.connect
  rw [same.present, same.engine]

/-- A resolved unix address leaves nothing else to depend on. -/
theorem SameLocally.connect_eq (same : SameLocally connector other world elsewhere) :
    other.connect elsewhere = connector.connect world := by
  obtain ⟨address, source, source', resolved, again⟩ := same.resolved
  unfold connect
  -- The sources of the two addresses may differ, but nothing is done with them.
  rw [build_of_resolved resolved, build_of_resolved again, same.direct_eq]

/-- **The connection facade.** Every run of connecting keeps to the facade, whoever makes a blocking
call of it, and with a resolved unix address it depends on nothing that concerns bastions. -/
theorem connect_facade (connector : Connector) (world : World) :
    Facade connector world True (connector.connect world) ∧
      (∀ caller : Caller, Facade connector world (caller = .blocking)
        (connector.connectBlocking caller world)) ∧
      ∀ other elsewhere, SameLocally connector other world elsewhere →
        other.connect elsewhere = connector.connect world := by
  refine ⟨facade_of_admitted trivial, fun caller => ?_, fun _ _ same => same.connect_eq⟩
  rcases caller.blocking_or_refused with rfl | ⟨other, reason, refused⟩
  · exact facade_of_admitted rfl
  · rw [connectBlocking_of_refused refused]
    exact facade_of_refused other ⟨nofun, nofun, nofun⟩

end Connector

end Gangway
