import Gangway.Proofs.Connection.Runs

/-!
# Which clients are built

A client is built for the unix address that resolves, or else behind a tunnel, for which every stage
has to succeed. `Connector.Builds` says so without a run, and `build_outcome_eq_ok_iff` shows that
the run of building gives exactly these clients. Building never probes, takes no step towards a
bastion once a unix address is resolved, and fails for reasons of its own.
-/

namespace Gangway

open Ssh (Params HostKeyPolicy AuthMethods Session Handshake)

/-- Errors that do not say that there is no unix address, nor that a probe went wrong. -/
structure Error.OfBuilding (error : Error) : Prop where
  candidate : ∀ exhausted, error ≠ .resolution (.noCandidate exhausted)
  check : ∀ text, error ≠ .engine (.livenessCheckFailed text)
  timeout : ∀ seconds, error ≠ .engine (.livenessTimeout seconds)

namespace Error.OfBuilding

theorem ssh (error : SshError) : (Error.ssh error).OfBuilding := ⟨nofun, nofun, nofun⟩

theorem resolveSsh {resolver : Resolver} {error : ResolutionError}
    (failed : resolver.resolveSsh = .error error) : (Error.resolution error).OfBuilding := by
  unfold Resolver.resolveSsh at failed
  split at failed
  · cases failed
  · cases failed
    exact ⟨nofun, nofun, nofun⟩

end Error.OfBuilding

/-- The problems of sockets that errors tell of: a missing socket, or denied permission. -/
theorem ClientError.problem?_eq_some {error : ClientError} {address : String}
    {problem : EngineError} (told : error.problem? address = some problem) :
    ∃ path, problem = .socketNotFound path ∨ problem = .permissionDenied path := by
  have special : ∀ kind, socketProblem? address kind = some problem →
      ∃ path, problem = .socketNotFound path ∨ problem = .permissionDenied path := by
    intro kind told
    unfold socketProblem? at told
    split at told
    · obtain ⟨path, -, rfl⟩ := Option.map_eq_some_iff.1 told
      exact ⟨path, .inl rfl⟩
    · obtain ⟨path, -, rfl⟩ := Option.map_eq_some_iff.1 told
      exact ⟨path, .inr rfl⟩
    · cases told
  unfold problem? at told
  split at told
  · exact special _ told
  · obtain ⟨kind, -, told⟩ := Option.bind_eq_some_iff.1 told
    exact special kind told

namespace Error.OfBuilding

theorem whenConnecting (error : ClientError) (address : String) :
    (Error.engine (error.whenConnecting address)).OfBuilding := by
  unfold ClientError.whenConnecting
  cases told : error.problem? address with
  | none => exact ⟨nofun, nofun, nofun⟩
  | some problem =>
    obtain ⟨path, rfl | rfl⟩ := ClientError.problem?_eq_some told
    · exact ⟨nofun, nofun, nofun⟩
    · exact ⟨nofun, nofun, nofun⟩

theorem dialable {address : String} {error : EngineError}
    (refused : Gangway.dialable address = .error error) : (Error.engine error).OfBuilding := by
  unfold Gangway.dialable at refused
  dsimp only at refused
  split at refused
  · cases refused
  split at refused
  · cases refused
    exact ⟨nofun, nofun, nofun⟩
  split at refused
  · cases refused
  · cases refused
    exact ⟨nofun, nofun, nofun⟩

/-- Setting up a client fails for the address or for the socket behind it. -/
theorem connect {files : Files} {address : String} {error : EngineError}
    (failed : Client.connect files address = .error error) : (Error.engine error).OfBuilding := by
  unfold Client.connect at failed
  cases accepted : Gangway.dialable address with
  | error refusal =>
    rw [accepted] at failed
    cases failed
    exact dialable accepted
  | ok uri =>
    simp only [accepted, bind, Except.bind] at failed
    split at failed
    · cases failed
    · cases failed
      exact whenConnecting _ uri

end Error.OfBuilding

/-- Whether the step is a probe. -/
def Step.isProbe : Step → Bool
  | .probe _ => true
  | _ => false

namespace Connector

variable {connector : Connector} {world : World} {client : EngineClient} {address : String}
  {source : Source} {exhausted : List Source}

/-- The clients that a connector builds in a world. -/
inductive Builds (connector : Connector) (world : World) : EngineClient → Prop where
  | direct {address : String} {source : Source} {client : Client}
      (resolved : connector.resolver.resolveUnix = .resolved address source)
      (dialled : Client.connect connector.resolver.files address = .ok client) :
      Builds connector world { route := .unix address, ping := world.engine client.socket }
  | tunnelled {exhausted : List Source} {destination : SshDestination} {params : Params}
      {policy : HostKeyPolicy} {methods : AuthMethods} {session : Session} {socket : String}
      {client : Client}
      (unresolved : connector.resolver.resolveUnix = .noCandidate exhausted)
      (found : connector.resolver.resolveSsh = .ok destination)
      (understood : connector.params destination = .ok params)
      (trusted : connector.policy params = .ok policy)
      (identified : connector.methods params = .ok methods)
      (authenticated :
        (Handshake.run (world.bastion params) params policy methods).outcome = .ok session)
      (relayed : world.relay = .ok socket)
      (dialled : Client.connect (withSocket connector.resolver.files socket)
        (unixMark ++ socket) = .ok client) :
      Builds connector world { route := .tunnel destination.uri socket, ping := session.ping }

theorem build_of_resolved (resolved : connector.resolver.resolveUnix = .resolved address source) :
    connector.build world =
      ⟨.resolveUnix :: (connector.direct world address).steps,
        (connector.direct world address).outcome⟩ := by
  unfold build
  rw [Run.bind_of_ok (Run.outcome_step _ _), resolved]
  rfl

theorem build_of_unresolved (unresolved : connector.resolver.resolveUnix = .noCandidate exhausted) :
    connector.build world =
      ⟨.resolveUnix :: (connector.tunnel world).steps, (connector.tunnel world).outcome⟩ := by
  unfold build
  rw [Run.bind_of_ok (Run.outcome_step _ _), unresolved]
  rfl

/-- Building for a unix address gives the client of the socket behind it. -/
theorem direct_outcome_eq_ok_iff :
    (connector.direct world address).outcome = .ok client ↔
      ∃ inner, Client.connect connector.resolver.files address = .ok inner ∧
        { route := .unix address, ping := world.engine inner.socket } = client := by
  simp only [direct, Run.outcome_bind_eq_ok_iff, Run.outcome_step, mapError_eq_ok_iff,
    Run.outcome_pure, Except.ok.injEq]

/-- Building for a unix address fails as setting up a client for it does. -/
theorem direct_outcome_eq_error_iff {error : Error} :
    (connector.direct world address).outcome = .error error ↔
      ∃ cause, Client.connect connector.resolver.files address = .error cause ∧
        .engine cause = error := by
  simp only [direct, Run.outcome_bind_eq_error_iff, Run.outcome_step, mapError_eq_error_iff,
    Run.outcome_pure, reduceCtorEq, and_false, exists_false, or_false]

/-- The run of building succeeds with exactly the clients that are built. -/
theorem build_outcome_eq_ok_iff :
    (connector.build world).outcome = .ok client ↔ Builds connector world client := by
  constructor
  · intro done
    cases found : connector.resolver.resolveUnix with
    | resolved address source =>
      rw [build_of_resolved found, direct_outcome_eq_ok_iff] at done
      obtain ⟨inner, dialled, rfl⟩ := done
      exact .direct found dialled
    | noCandidate exhausted =>
      rw [build_of_unresolved found] at done
      simp only [tunnel, Run.outcome_bind_eq_ok_iff, Run.outcome_step, mapError_eq_ok_iff,
        Run.outcome_pure, Except.ok.injEq] at done
      obtain ⟨destination, foundSsh, params, understood, policy, trusted, methods, identified,
        session, authenticated, socket, relayed, inner, dialled, rfl⟩ := done
      exact .tunnelled found foundSsh understood trusted identified authenticated relayed dialled
  · rintro (⟨resolved, dialled⟩ |
      ⟨unresolved, found, understood, trusted, identified, authenticated, relayed, dialled⟩)
    · rw [build_of_resolved resolved, direct_outcome_eq_ok_iff]
      exact ⟨_, dialled, rfl⟩
    · rw [build_of_unresolved unresolved]
      simp only [tunnel, Run.outcome_bind_eq_ok_iff, Run.outcome_step, mapError_eq_ok_iff,
        Run.outcome_pure, Except.ok.injEq]
      exact ⟨_, found, _, understood, _, trusted, _, identified, _, authenticated, _, relayed, _,
        dialled, rfl⟩

/-- At most one client is built. -/
theorem Builds.unique {other : EngineClient} (built : Builds connector world client)
    (again : Builds connector world other) : client = other := by
  rw [← build_outcome_eq_ok_iff] at built again
  rw [built] at again
  cases again
  rfl

/-- The client of a unix address speaks to that address. -/
theorem Builds.address_of_resolved (built : Builds connector world client)
    (resolved : connector.resolver.resolveUnix = .resolved address source) :
    client.address = address := by
  cases built with
  | direct found _ =>
    rw [resolved] at found
    cases found
    rfl
  | tunnelled unresolved =>
    rw [resolved] at unresolved
    cases unresolved

/-- The client of a tunnel speaks to the tunnel's relay. -/
theorem Builds.address_of_unresolved (built : Builds connector world client)
    (unresolved : connector.resolver.resolveUnix = .noCandidate exhausted) :
    ∃ socket, world.relay = .ok socket ∧ client.address = unixMark ++ socket := by
  cases built with
  | direct resolved _ =>
    rw [unresolved] at resolved
    cases resolved
  | tunnelled _ _ _ _ _ _ relayed _ => exact ⟨_, relayed, rfl⟩

/-- For a unix address only the client is set up. -/
theorem direct_within :
    (connector.direct world address).Within (· = .client address) Error.OfBuilding :=
  .bind (.caused rfl fun _ => .connect) fun _ => .pure

/-- A tunnel is built without a probe and without another look for a unix address. -/
theorem tunnel_within :
    (connector.tunnel world).Within (fun taken => taken.isProbe = false ∧ taken ≠ .resolveUnix)
      Error.OfBuilding := by
  -- Between the two ends of a tunnel every stage fails with an error of SSH.
  have own : ∀ {α : Type} {taken : Step} {outcome : Except SshError α},
      taken.isProbe = false ∧ taken ≠ .resolveUnix →
        (Run.step taken (outcome.mapError Error.ssh)).Within
          (fun taken => taken.isProbe = false ∧ taken ≠ .resolveUnix) Error.OfBuilding :=
    fun kind => .caused kind fun cause _ => .ssh cause
  unfold tunnel
  refine .bind (.caused ⟨rfl, nofun⟩ fun cause failed => ?_) fun destination => ?_
  · exact .resolveSsh failed
  refine .bind (own ⟨rfl, nofun⟩) fun params => ?_
  refine .bind (own ⟨rfl, nofun⟩) fun policy => ?_
  refine .bind (own ⟨rfl, nofun⟩) fun methods => ?_
  refine .bind (own ⟨rfl, nofun⟩) fun session => ?_
  refine .bind (own ⟨rfl, nofun⟩) fun socket => ?_
  exact .bind (.caused ⟨rfl, nofun⟩ fun _ => .connect) fun _ => .pure

end Connector

end Gangway
