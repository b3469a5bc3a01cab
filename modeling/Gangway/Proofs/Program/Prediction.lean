import Gangway.Program
import Gangway.Proofs.Connection.Tunnel
import Gangway.Proofs.Handshake.Outcome

/-!
# What resolving tells of pinging

Resolving and pinging each choose between a unix address and an ssh destination. `Foretells` says
what the printed line tells of a ping under the same settings: which steps it takes, which client it
sets up, and which error it ends with. `resolve_foretells` shows that it is always so.
-/

namespace Gangway

open Ssh (Params AuthMethods)

/-- The client that a run of connecting sets up, whether its engine answers or not. -/
def Run.client? (run : Run ConnectFailure EngineClient) : Option EngineClient :=
  match run.outcome with
  | .ok client => some client
  | .error failure => failure.client?

namespace Connector

variable {connector : Connector} {world : World}

theorem client?_connect_eq_some_iff {client : EngineClient} :
    (connector.connect world).client? = some client ↔ Builds connector world client := by
  unfold Run.client?
  cases ends : (connector.connect world).outcome with
  | ok first =>
    have built := (connect_outcome_eq_ok_iff.1 ends).1
    exact ⟨fun | rfl => built, fun built' => congrArg some (built.unique built')⟩
  | error failure =>
    cases failure with
    | build error =>
      have none := build_fails_iff.1 ⟨error, connect_outcome_eq_build_iff.1 ends⟩
      exact ⟨nofun, fun built => absurd built (none client)⟩
    | unreachable first error =>
      have built := (connect_outcome_eq_unreachable_iff.1 ends).1
      exact ⟨fun | rfl => built, fun built' => congrArg some (built.unique built')⟩

/-- A step towards the engine behind an ssh destination: whatever is asked for on the way is that of
the destination, and nothing but its identity and the password of its parameters is offered. -/
inductive Towards (connector : Connector) (destination : SshDestination) : Step → Prop where
  | resolveUnix : Towards connector destination .resolveUnix
  | resolveSsh : Towards connector destination .resolveSsh
  | parameters : Towards connector destination (.parameters destination.uri)
  | policy {params : Params} (understood : Params.ofUri connector.localUser destination.uri
      destination.identity connector.resolver.passphrase? = .ok params) :
      Towards connector destination (.policy params)
  | identities : Towards connector destination (.identities [destination.identity])
  | dial {params : Params} {methods : AuthMethods} {attempts : List Ssh.Attempt}
      (understood : Params.ofUri connector.localUser destination.uri destination.identity
        connector.resolver.passphrase? = .ok params)
      (loaded : AuthMethods.resolve connector.resolver.files [destination.identity]
        params.keyPassphrase (some params.password) = .ok methods)
      (offered : attempts.map Ssh.Attempt.method <+: methods.offers) :
      Towards connector destination (.dial params.host attempts)
  | relay : Towards connector destination .relay
  | client {socket : String} : Towards connector destination (.client (unixMark ++ socket))
  | probe {socket : String} : Towards connector destination (.probe (unixMark ++ socket))

variable {exhausted : List Source} {destination : SshDestination}

/-- Where no unix address is found, all steps lead to the ssh destination. -/
theorem towards_of_mem_steps
    (unresolved : connector.resolver.resolveUnix = .noCandidate exhausted)
    (found : connector.resolver.resolveSsh = .ok destination) {taken : Step}
    (member : taken ∈ (connector.connect world).steps) : Towards connector destination taken := by
  rcases mem_steps_connect_iff.1 member with member | ⟨client, built, rfl⟩
  · rw [build_of_unresolved unresolved] at member
    rcases List.mem_cons.1 member with rfl | member
    · exact .resolveUnix
    obtain ⟨stage, -, outcome, given⟩ := tunnel_through.exists_takes member
    cases given with
    | destination => exact .resolveSsh
    | parameters found' =>
      cases found.symm.trans found'
      exact .parameters
    | policy targets =>
      cases found.symm.trans targets.found
      exact .policy targets.understood
    | identities targets =>
      cases found.symm.trans targets.found
      exact .identities
    | handshake targets trusted identified =>
      cases found.symm.trans targets.found
      have loaded := identified
      rw [Connector.methods, targets.keyPath_eq] at loaded
      exact .dial targets.understood loaded Ssh.Handshake.course_run.offered
    | relay => exact .relay
    | client => exact .client
  · obtain ⟨socket, -, same⟩ := built.address_of_unresolved unresolved
    rw [same]
    exact .probe

/-- Where no unix address is found, the tunnel of a client leads to the ssh destination. -/
theorem Builds.route_of_found {client : EngineClient} (built : Builds connector world client)
    (unresolved : connector.resolver.resolveUnix = .noCandidate exhausted)
    (found : connector.resolver.resolveSsh = .ok destination) :
    ∃ relay, client.route = .tunnel destination.uri relay := by
  cases built with
  | direct resolved =>
    rw [unresolved] at resolved
    cases resolved
  | tunnelled _ found' =>
    cases found.symm.trans found'
    exact ⟨_, rfl⟩

/-- The client of a unix address reaches it over a unix socket. -/
theorem Builds.route_of_resolved {client : EngineClient} {address : String} {source : Source}
    (built : Builds connector world client)
    (resolved : connector.resolver.resolveUnix = .resolved address source) :
    client.route = .unix address := by
  cases built with
  | direct found =>
    rw [resolved] at found
    cases found
    rfl
  | tunnelled unresolved =>
    rw [resolved] at unresolved
    cases unresolved

/-- For a unix address a client is set up. -/
theorem client_mem_steps {address : String} {source : Source}
    (resolved : connector.resolver.resolveUnix = .resolved address source) :
    .client address ∈ (connector.connect world).steps := by
  refine mem_steps_connect_iff.2 (.inl ?_)
  rw [build_of_resolved resolved]
  exact List.mem_cons_of_mem _ (Run.mem_steps_bind (List.mem_singleton_self _))

/-- The uri of the ssh destination is asked for its parameters. -/
theorem parameters_mem_steps
    (unresolved : connector.resolver.resolveUnix = .noCandidate exhausted)
    (found : connector.resolver.resolveSsh = .ok destination) :
    .parameters destination.uri ∈ (connector.build world).steps := by
  rw [build_of_unresolved unresolved]
  refine List.mem_cons_of_mem _ ?_
  unfold tunnel
  rw [Run.bind_of_ok (mapError_eq_ok_iff.2 found)]
  exact List.mem_append_right _ (Run.mem_steps_bind (List.mem_singleton_self _))

end Connector

namespace Program

section

variable {resolver : Resolver}

theorem find_eq_unix_iff {address : String} {source : Source} :
    find resolver = .ok (.unix address source) ↔
      resolver.resolveUnix = .resolved address source := by
  unfold find
  cases resolver.resolveUnix with
  | resolved address' source' => simp
  | noCandidate exhausted => cases resolver.resolveSsh <;> simp [Except.map]

theorem find_eq_ssh_iff {destination : SshDestination} :
    find resolver = .ok (.ssh destination) ↔
      (∃ exhausted, resolver.resolveUnix = .noCandidate exhausted) ∧
        resolver.resolveSsh = .ok destination := by
  unfold find
  cases resolver.resolveUnix with
  | resolved address source => simp
  | noCandidate exhausted => cases resolver.resolveSsh <;> simp [Except.map]

theorem find_eq_error_iff {error : ResolutionError} :
    find resolver = .error error ↔
      (∃ exhausted, resolver.resolveUnix = .noCandidate exhausted) ∧
        resolver.resolveSsh = .error error := by
  unfold find
  cases resolver.resolveUnix with
  | resolved address source => simp
  | noCandidate exhausted => cases resolver.resolveSsh <;> simp [Except.map]

end

/-- The run of connecting that pinging is. -/
def pinging (surroundings : Surroundings) (settings : Settings) :
    Run ConnectFailure EngineClient :=
  (connector surroundings settings).connectBlocking .blocking surroundings.world

/-- What the line that resolving prints tells of pinging under the same settings. -/
structure Foretells (surroundings : Surroundings) (settings : Settings) : Prop where
  /-- After a line with a unix address a client is set up for that address and for nothing else, and
  if the engine answers, the address is printed. -/
  unix : ∀ address source,
    find (resolver surroundings settings) = .ok (.unix address source) →
    execute surroundings settings .resolve =
      .success s!"unix\t{address}\t{source.text}\n" ∧
    .client address ∈ (pinging surroundings settings).steps ∧
    (∀ taken ∈ (pinging surroundings settings).steps,
      taken = .resolveUnix ∨ taken = .client address ∨ taken = .probe address) ∧
    (∀ client, (pinging surroundings settings).client? = some client →
      client.route = .unix address) ∧
    ∀ client, (pinging surroundings settings).outcome = .ok client →
      execute surroundings settings .ping = .success s!"live\tunix\t{address}\n"
  /-- After a line with an ssh destination all steps are towards it, and a client is tunnelled to
  it. -/
  ssh : ∀ destination, find (resolver surroundings settings) = .ok (.ssh destination) →
    execute surroundings settings .resolve = .success
      s!"ssh\t{destination.uri}\t{destination.source}\tidentity={destination.identity}\n" ∧
    .resolveSsh ∈ (pinging surroundings settings).steps ∧
    .parameters destination.uri ∈ (pinging surroundings settings).steps ∧
    (∀ taken ∈ (pinging surroundings settings).steps,
      (connector surroundings settings).Towards destination taken) ∧
    ∀ client, (pinging surroundings settings).client? = some client →
      ∃ relay, client.route = .tunnel destination.uri relay
  /-- If resolving fails, no client is set up, for the same error. -/
  fails : ∀ error, find (resolver surroundings settings) = .error error →
    execute surroundings settings .resolve = .failure error.message none ∧
    (pinging surroundings settings).outcome = .error (.build (.resolution error)) ∧
    execute surroundings settings .ping =
      .failure "could not build an engine client" (some error.message)

theorem execute_ping (surroundings : Surroundings) (settings : Settings) :
    execute surroundings settings .ping =
      .ofConnection (pinging surroundings settings).outcome := rfl

/-- A client that reaches an address over a unix socket is reported with the address. -/
theorem liveLine_of_unix {client : EngineClient} {address : String}
    (route : client.route = .unix address) : liveLine client = s!"live\tunix\t{address}\n" := by
  unfold liveLine EngineClient.address
  rw [route]
  rfl

/-- If resolving fails, so does building, for the same error. -/
theorem pinging_fails {surroundings : Surroundings} {settings : Settings} {error : ResolutionError}
    (failed : find (resolver surroundings settings) = .error error) :
    (pinging surroundings settings).outcome = .error (.build (.resolution error)) := by
  obtain ⟨⟨exhausted, unresolved⟩, lost⟩ := find_eq_error_iff.1 failed
  have stops : ((connector surroundings settings).tunnel surroundings.world).outcome =
      .error (.resolution error) := by
    unfold Connector.tunnel
    rw [Run.bind_of_error (mapError_eq_error_iff.2 ⟨error, lost, rfl⟩)]
  change ((connector surroundings settings).connect surroundings.world).outcome = _
  rw [Connector.connect_of_tunnel_failed unresolved stops]

/-- **What resolving tells of pinging.** For all surroundings and settings, the line that resolving
prints, or the error that it fails with, tells which way a ping takes. -/
theorem resolve_foretells (surroundings : Surroundings) (settings : Settings) :
    Foretells surroundings settings where
  unix address source found := by
    have resolved := find_eq_unix_iff.1 found
    have route : ∀ client, (pinging surroundings settings).client? = some client →
        client.route = .unix address := fun client known =>
      (Connector.client?_connect_eq_some_iff.1 known).route_of_resolved resolved
    refine ⟨congrArg Outcome.ofFound found, Connector.client_mem_steps resolved, ?_, route, ?_⟩
    · intro taken member
      rcases Connector.mem_steps_connect_iff.1 member with member | ⟨client, built, rfl⟩
      · exact (Connector.steps_build_of_resolved resolved taken member).imp_right .inl
      · rw [built.address_of_resolved resolved]
        exact .inr (.inr rfl)
    · intro client answered
      have known : (pinging surroundings settings).client? = some client := by
        rw [Run.client?, answered]
      rw [execute_ping, answered]
      exact congrArg Outcome.success (liveLine_of_unix (route client known))
  ssh destination found := by
    obtain ⟨⟨exhausted, unresolved⟩, located⟩ := find_eq_ssh_iff.1 found
    refine ⟨congrArg Outcome.ofFound found, ?_, ?_, ?_, ?_⟩
    · exact Connector.mem_steps_connect_iff.2
        (.inl (Connector.resolveSsh_mem_steps_build_iff.2 ⟨exhausted, unresolved⟩))
    · exact Connector.mem_steps_connect_iff.2
        (.inl (Connector.parameters_mem_steps unresolved located))
    · exact fun taken => Connector.towards_of_mem_steps unresolved located
    · exact fun client known =>
        (Connector.client?_connect_eq_some_iff.1 known).route_of_found unresolved located
  fails error failed := by
    have ends := pinging_fails failed
    refine ⟨congrArg Outcome.ofFound failed, ends, ?_⟩
    rw [execute_ping, ends]
    rfl

end Program

end Gangway
