import Gangway.Proofs.Connection.Facade
import Gangway.Proofs.Connection.Stages
import Gangway.Proofs.Trust.Decision

/-!
# The stages of a tunnel

Where no unix address is found, a tunnel is built in seven stages: the ssh destination, its
parameters, the policy for the host key, the identities, the handshake with the bastion, the relay,
and the client. `Connector.Gives` says of each stage alone what it does, so that any set of them
may fail on one input. `connect_stages` says that the stages are gone through in this order, that
the first that fails names the error, and that the four checks in front leave the bastion alone.
-/

namespace Gangway

open Ssh (Params HostKeyPolicy AuthMethods Session Handshake StoreText Vouches lookupName)

/-- The parameters of a destination have its key and its passphrase, and no password, whatever its
URI says of one. -/
theorem Ssh.Params.given_of_ofUri {localUser uri keyPath : String} {passphrase : Option String}
    {params : Params} (understood : Params.ofUri localUser uri keyPath passphrase = .ok params) :
    params.keyPath = keyPath ∧ params.keyPassphrase = passphrase ∧ params.password = "" := by
  unfold Params.ofUri at understood
  dsimp only at understood
  split at understood
  · cases understood
  split at understood
  · cases understood
  split at understood
  · cases understood
  · cases understood
    exact ⟨rfl, rfl, rfl⟩

/-- A stage of building a tunnel. -/
inductive Stage where
  | destination
  | parameters
  | policy
  | identities
  | handshake
  | relay
  | client
  deriving DecidableEq, Repr

namespace Stage

/-- The stages that are gone through before the bastion is dialled. -/
def checks : List Stage := [.destination, .parameters, .policy, .identities]

/-- All stages in their order. -/
def order : List Stage := checks ++ [.handshake, .relay, .client]

end Stage

namespace Connector

variable {connector other : Connector} {world elsewhere : World}

/-- The ssh destination that is found, and the parameters that it leads to. -/
structure Targets (connector : Connector) (destination : SshDestination) (params : Params) :
    Prop where
  found : connector.resolver.resolveSsh = .ok destination
  understood : connector.params destination = .ok params

theorem Targets.keyPath_eq {destination : SshDestination} {params : Params}
    (targets : connector.Targets destination params) : params.keyPath = destination.identity :=
  (Ssh.Params.given_of_ofUri targets.understood).1

theorem Targets.unique {destination destination' : SshDestination} {params params' : Params}
    (targets : connector.Targets destination params)
    (targets' : connector.Targets destination' params') :
    destination = destination' ∧ params = params' := by
  obtain ⟨found, understood⟩ := targets
  obtain ⟨found', understood'⟩ := targets'
  cases found.symm.trans found'
  cases understood.symm.trans understood'
  exact ⟨rfl, rfl⟩

/-- What each stage does, whatever becomes of those stages that it does not depend on. -/
inductive Gives (connector : Connector) (world : World) : Staging Stage Error where
  | destination :
      Gives connector world .destination .resolveSsh
        (verdict .resolution connector.resolver.resolveSsh)
  | parameters {destination : SshDestination}
      (found : connector.resolver.resolveSsh = .ok destination) :
      Gives connector world .parameters (.parameters destination.uri)
        (verdict .ssh (connector.params destination))
  | policy {destination : SshDestination} {params : Params}
      (targets : connector.Targets destination params) :
      Gives connector world .policy (.policy params) (verdict .ssh (connector.policy params))
  | identities {destination : SshDestination} {params : Params}
      (targets : connector.Targets destination params) :
      Gives connector world .identities (.identities [destination.identity])
        (verdict .ssh (connector.methods params))
  | handshake {destination : SshDestination} {params : Params} {policy : HostKeyPolicy}
      {methods : AuthMethods} (targets : connector.Targets destination params)
      (trusted : connector.policy params = .ok policy)
      (identified : connector.methods params = .ok methods) :
      Gives connector world .handshake
        (.dial params.host
          (Handshake.run (world.bastion params) params policy methods).attempts)
        (verdict .ssh (Handshake.run (world.bastion params) params policy methods).outcome)
  | relay : Gives connector world .relay .relay (verdict .ssh world.relay)
  | client {socket : String} (relayed : world.relay = .ok socket) :
      Gives connector world .client (.client (unixMark ++ socket))
        (verdict .engine
          (Client.connect (withSocket connector.resolver.files socket) (unixMark ++ socket)))

theorem determined_gives : (Gives connector world).Determined := by
  intro stage taken outcome taken' outcome' given given'
  cases given with
  | destination =>
    cases given' with
    | destination => exact ⟨rfl, rfl⟩
  | parameters found =>
    cases given' with
    | parameters found' =>
      cases found.symm.trans found'
      exact ⟨rfl, rfl⟩
  | policy targets =>
    cases given' with
    | policy targets' =>
      obtain ⟨rfl, rfl⟩ := targets.unique targets'
      exact ⟨rfl, rfl⟩
  | identities targets =>
    cases given' with
    | identities targets' =>
      obtain ⟨rfl, rfl⟩ := targets.unique targets'
      exact ⟨rfl, rfl⟩
  | handshake targets trusted identified =>
    cases given' with
    | handshake targets' trusted' identified' =>
      obtain ⟨rfl, rfl⟩ := targets.unique targets'
      cases trusted.symm.trans trusted'
      cases identified.symm.trans identified'
      exact ⟨rfl, rfl⟩
  | relay =>
    cases given' with
    | relay => exact ⟨rfl, rfl⟩
  | client relayed =>
    cases given' with
    | client relayed' =>
      cases relayed.symm.trans relayed'
      exact ⟨rfl, rfl⟩

/-- Building a tunnel goes through the stages in order. -/
theorem tunnel_through :
    (connector.tunnel world).Through (Gives connector world) Stage.order := by
  unfold tunnel
  refine .bind .destination fun destination found => ?_
  refine .bind (.parameters found) fun params understood => ?_
  have targets : connector.Targets destination params := ⟨found, understood⟩
  refine .bind (.policy targets) fun policy trusted => ?_
  rw [targets.keyPath_eq]
  refine .bind (.identities targets) fun methods identified => ?_
  refine .bind (.handshake targets trusted identified) fun session _ => ?_
  refine .bind .relay fun socket relayed => ?_
  exact .bind (.client relayed) fun _ _ => .done

/-- Tunnels whose first stages agree are the same if one of these stages fails. -/
theorem tunnel_eq_of_agree {front back : List Stage} (order : Stage.order = front ++ back)
    {stage : Stage} {error : Error} (member : stage ∈ front)
    (failed : (Gives connector world).Fails stage error)
    (agree : ∀ same ∈ front, ∀ taken outcome, Gives other elsewhere same taken outcome →
      Gives connector world same taken outcome) :
    other.tunnel elsewhere = connector.tunnel world := by
  obtain ⟨before, first, after, cause, rfl, found⟩ := Staging.exists_first member failed
  have through : (connector.tunnel world).Through (Gives connector world)
      (before ++ first :: (after ++ back)) := by
    simpa [order] using (tunnel_through : (connector.tunnel world).Through _ _)
  have through' : (other.tunnel elsewhere).Through (Gives other elsewhere)
      (before ++ first :: (after ++ back)) := by
    simpa [order] using (tunnel_through : (other.tunnel elsewhere).Through _ _)
  refine through.eq_of_agree determined_gives through' found fun same inside => agree same ?_
  exact List.mem_append.2 ((List.mem_append.1 inside).imp_right fun inside =>
    List.mem_cons.2 (.inl (List.mem_singleton.1 inside)))

theorem connect_of_tunnel_failed {exhausted : List Source} {error : Error}
    (unresolved : connector.resolver.resolveUnix = .noCandidate exhausted)
    (failed : (connector.tunnel world).outcome = .error error) :
    connector.connect world =
      ⟨.resolveUnix :: (connector.tunnel world).steps, .error (.build error)⟩ := by
  unfold connect
  rw [build_of_unresolved unresolved, Run.bind_of_error (mapError_eq_error_iff.2 ⟨_, failed, rfl⟩)]
  rfl

/-- A bastion that no line of the trust store vouches for fails the judgement of its key. -/
theorem first_of_stranger {destination : SshDestination} {params : Params} {content : String}
    (targets : connector.Targets destination params) (secure : params.secure = true)
    (strict : connector.options.strictHostKeys = true)
    (text : StoreText connector.resolver.files connector.options.knownHosts content)
    (unknown : ∀ key, ¬Vouches content (lookupName params.hostname params.port) key) :
    (Gives connector world).First [.destination, .parameters] .policy
      (.ssh (.hostKeyUnknown params.host)) := by
  have found : Gives connector world .destination .resolveSsh (.ok ()) := by
    have given : Gives connector world .destination _ _ := .destination
    rwa [targets.found] at given
  have understood : Gives connector world .parameters (.parameters destination.uri) (.ok ()) := by
    have given : Gives connector world .parameters _ _ := .parameters targets.found
    rwa [targets.understood] at given
  have refused : connector.policy params = .error (.hostKeyUnknown params.host) := by
    unfold policy
    rw [HostKeyPolicy.forConnection_unknown secure text
      (Ssh.TrustStore.keysFor_parse_eq_nil_iff.2 unknown), strict]
    rfl
  refine .cons (determined_gives.not_fails found) (.cons (determined_gives.not_fails understood)
    ⟨nofun, .policy params, ?_⟩)
  have given : Gives connector world .policy _ _ := .policy targets
  rwa [refused] at given

/-- Two connectors that look for an ssh destination and judge the key of its bastion alike. They may
differ in the text of identities, and in all other files that are not read for that. -/
structure JudgesAlike (connector other : Connector) : Prop where
  unresolved : ∃ exhausted, other.resolver.resolveUnix = .noCandidate exhausted
  found : other.resolver.resolveSsh = connector.resolver.resolveSsh
  understood : ∀ destination, connector.resolver.resolveSsh = .ok destination →
    other.params destination = connector.params destination
  trusted : ∀ destination params, connector.Targets destination params →
    other.policy params = connector.policy params

theorem JudgesAlike.targets (alike : JudgesAlike connector other) {destination : SshDestination}
    {params : Params} (targets : other.Targets destination params) :
    connector.Targets destination params := by
  have found := alike.found.symm.trans targets.found
  exact ⟨found, (alike.understood destination found).symm.trans targets.understood⟩

theorem JudgesAlike.gives (alike : JudgesAlike connector other) :
    ∀ same ∈ [Stage.destination, .parameters, .policy], ∀ taken outcome,
      Gives other elsewhere same taken outcome → Gives connector world same taken outcome := by
  intro same member taken outcome given
  cases given with
  | destination =>
    rw [alike.found]
    exact .destination
  | parameters found =>
    rw [alike.found] at found
    rw [alike.understood _ found]
    exact .parameters found
  | policy targets =>
    have targets := alike.targets targets
    rw [alike.trusted _ _ targets]
    exact .policy targets
  | identities | handshake | relay | client => simp at member

section

variable {exhausted : List Source} {stage : Stage} {before after : List Stage} {error : Error}
  (unresolved : connector.resolver.resolveUnix = .noCandidate exhausted)

include unresolved

/-- The first stage that fails ends the run. -/
theorem connect_of_first (order : Stage.order = before ++ stage :: after)
    (first : (Gives connector world).First before stage error) :
    (connector.connect world).outcome = .error (.build error) ∧
      ∃ taken, (connector.connect world).steps = .resolveUnix :: taken ∧
        List.Forall₂ (Gives connector world).Takes (before ++ [stage]) taken := by
  have through : (connector.tunnel world).Through (Gives connector world) _ := tunnel_through
  rw [order] at through
  obtain ⟨ends, taken⟩ := through.of_first determined_gives first
  rw [connect_of_tunnel_failed unresolved ends]
  exact ⟨rfl, _, rfl, taken⟩

/-- A run that builds no client fails at the first stage that does. -/
theorem exists_first_of_connect (ends : (connector.connect world).outcome = .error (.build error)) :
    ∃ before stage after, Stage.order = before ++ stage :: after ∧
      (Gives connector world).First before stage error := by
  rw [connect_outcome_eq_build_iff, build_of_unresolved unresolved] at ends
  exact tunnel_through.exists_first determined_gives ends

/-- If no stage fails, the client that is built is probed. -/
theorem connect_of_none
    (passed : ∀ stage ∈ Stage.order, ∀ error, ¬(Gives connector world).Fails stage error) :
    ∃ client taken, Builds connector world client ∧
      (connector.connect world).steps = .resolveUnix :: taken ++ [.probe client.address] ∧
      List.Forall₂ (Gives connector world).Takes Stage.order taken := by
  have through : (connector.tunnel world).Through (Gives connector world) _ := tunnel_through
  obtain ⟨⟨client, done⟩, taken⟩ := through.of_none passed
  have built : Builds connector world client := by
    rw [← build_outcome_eq_ok_iff, build_of_unresolved unresolved]
    exact done
  refine ⟨client, _, built, ?_, taken⟩
  rw [steps_connect_of_builds built, build_of_unresolved unresolved]

/-- If one of the first stages fails, connectors that agree on these are alike. -/
theorem connect_eq_of_agree {exhausted' : List Source}
    (unresolved' : other.resolver.resolveUnix = .noCandidate exhausted') {front back : List Stage}
    (order : Stage.order = front ++ back) (member : stage ∈ front)
    (failed : (Gives connector world).Fails stage error)
    (agree : ∀ same ∈ front, ∀ taken outcome, Gives other elsewhere same taken outcome →
      Gives connector world same taken outcome) :
    other.connect elsewhere = connector.connect world := by
  unfold connect
  rw [build_of_unresolved unresolved, build_of_unresolved unresolved',
    tunnel_eq_of_agree order member failed agree]

/-- If a check fails, no step dials the bastion. -/
theorem not_dialled (member : stage ∈ Stage.checks)
    (failed : (Gives connector world).Fails stage error) (host : String)
    (attempts : List Ssh.Attempt) : .dial host attempts ∉ (connector.connect world).steps := by
  obtain ⟨before, first, after, cause, checks, found⟩ := Staging.exists_first member failed
  have order : Stage.order = before ++ first :: (after ++ [.handshake, .relay, .client]) := by
    simp [Stage.order, checks]
  obtain ⟨-, taken, steps, takes⟩ := connect_of_first unresolved order found
  rw [steps]
  intro dialled
  have dialled : .dial host attempts ∈ taken := by simpa using dialled
  obtain ⟨same, inside, outcome, given⟩ := Staging.exists_takes takes dialled
  -- Only a handshake dials, and it is none of the checks.
  cases given with
  | handshake =>
    have : Stage.handshake ∈ Stage.checks := by
      rw [checks, List.mem_append, List.mem_cons]
      exact (List.mem_append.1 inside).imp_right fun last => .inl (List.mem_singleton.1 last)
    exact absurd this (by decide)

end

/-- The checks do not look at the world. -/
theorem gives_of_check :
    ∀ same ∈ Stage.checks, ∀ taken outcome, Gives connector elsewhere same taken outcome →
      Gives connector world same taken outcome := by
  intro same member taken outcome given
  cases given with
  | destination => exact .destination
  | parameters found => exact .parameters found
  | policy targets => exact .policy targets
  | identities targets => exact .identities targets
  | handshake | relay | client => simp [Stage.checks] at member

/-- What a run of connecting keeps to where no unix address is found. -/
structure Staged (connector : Connector) (world : World) (run : Run ConnectFailure EngineClient) :
    Prop where
  /-- No client is built exactly if some stage fails, and the first that does names the error. -/
  blames : ∀ error, run.outcome = .error (.build error) ↔
    ∃ before stage after, Stage.order = before ++ stage :: after ∧
      (Gives connector world).First before stage error
  /-- The stages are gone through in their order up to the first that fails. -/
  stops : ∀ before stage after error, Stage.order = before ++ stage :: after →
    (Gives connector world).First before stage error →
      ∃ taken, run.steps = .resolveUnix :: taken ∧
        List.Forall₂ (Gives connector world).Takes (before ++ [stage]) taken
  /-- If none fails, a client is built by going through all stages, and is then probed. -/
  completes : (∀ stage ∈ Stage.order, ∀ error, ¬(Gives connector world).Fails stage error) →
    ∃ client taken, Builds connector world client ∧
      run.steps = .resolveUnix :: taken ++ [.probe client.address] ∧
      List.Forall₂ (Gives connector world).Takes Stage.order taken
  /-- If a check fails, the bastion is not dialled, and it does not matter what it would do. -/
  undialled : ∀ stage ∈ Stage.checks, ∀ error, (Gives connector world).Fails stage error →
    (∀ host attempts, .dial host attempts ∉ run.steps) ∧
      ∀ elsewhere, connector.connect elsewhere = run
  /-- If a check fails in front of the identities, it does not matter what they are. -/
  unread : ∀ stage ∈ [Stage.destination, .parameters, .policy], ∀ error,
    (Gives connector world).Fails stage error → ∀ other elsewhere, JudgesAlike connector other →
      other.connect elsewhere = run
  /-- Under strict checking a bastion that no line of the trust store vouches for is refused without
  a look at the identity or at the bastion. -/
  stranger : ∀ destination params content, connector.Targets destination params →
    params.secure = true → connector.options.strictHostKeys = true →
      StoreText connector.resolver.files connector.options.knownHosts content →
        (∀ key, ¬Vouches content (lookupName params.hostname params.port) key) →
          run.outcome = .error (.build (.ssh (.hostKeyUnknown params.host))) ∧
          run.steps =
            [.resolveUnix, .resolveSsh, .parameters destination.uri, .policy params]

/-- **The stages of a tunnel.** Where no unix address is found, a run of connecting goes through the
stages in order, and the first that fails decides its error and its end. -/
theorem connect_stages (connector : Connector) (world : World) {exhausted : List Source}
    (unresolved : connector.resolver.resolveUnix = .noCandidate exhausted) :
    Staged connector world (connector.connect world) ∧
      Staged connector world (connector.connectBlocking .blocking world) := by
  have staged : Staged connector world (connector.connect world) := {
    blames := fun error => ⟨exists_first_of_connect unresolved, fun ⟨_, _, _, order, first⟩ =>
      (connect_of_first unresolved order first).1⟩
    stops := fun _ _ _ _ order first => (connect_of_first unresolved order first).2
    completes := connect_of_none unresolved
    undialled := fun _ member _ failed =>
      ⟨not_dialled unresolved member failed, fun _ =>
        connect_eq_of_agree unresolved unresolved rfl member failed gives_of_check⟩
    unread := fun _ member _ failed _ _ alike => by
      obtain ⟨_, unresolved'⟩ := alike.unresolved
      have order : Stage.order = [.destination, .parameters, .policy] ++
          [.identities, .handshake, .relay, .client] := rfl
      exact connect_eq_of_agree unresolved unresolved' order member failed alike.gives
    stranger := fun destination params content targets secure strict text unknown => by
      have first : (Gives connector world).First _ _ _ :=
        first_of_stranger targets secure strict text unknown
      have order : Stage.order = [.destination, .parameters] ++
          .policy :: [.identities, .handshake, .relay, .client] := rfl
      obtain ⟨ends, taken, steps, takes⟩ := connect_of_first unresolved order first
      have same : taken = [.resolveSsh, .parameters destination.uri, .policy params] :=
        determined_gives.takes_unique takes (.cons ⟨_, .destination⟩
          (.cons ⟨_, .parameters targets.found⟩ (.cons ⟨_, .policy targets⟩ .nil)))
      exact ⟨ends, steps.trans (congrArg _ same)⟩ }
  exact ⟨staged, staged⟩

/-- A document with an ssh destination. -/
def strangerDocument : String :=
  "[engine.service_destinations.a]\nuri = \"ssh://bastion/s\"\nidentity = \"k\"\n"

/-- A connector to a bastion that nothing is known of, with an identity that is missing. -/
def strangerConnector : Connector where
  resolver :=
    { environment := { get? := fun _ => none }
      files := Snapshot.files [⟨"a.conf", true, .ok strangerDocument⟩]
      sources := { documents := ["a.conf"] } }
  options := { knownHosts := none, strictHostKeys := true }
  localUser := "core"

/-- What the destination of the document leads to. -/
def strangerParams : Params where
  host := "bastion:22"
  hostname := "bastion"
  port := 22
  path := "/s"
  user := "core"
  keyPath := "k"
  keyPassphrase := none
  secure := true
  password := ""

/-- A world in which nothing works. -/
def brokenWorld : World where
  engine _ := .never
  bastion _ := .unreachable "connection refused"
  relay := .error (.relayFailed "no space left")

/-- The key of the bastion is unknown, the identity is missing and no relay can be set up: the first
of these is reported. -/
theorem connect_stages_stranger :
    strangerConnector.resolver.resolveUnix = .noCandidate [.environment, .document "a.conf",
      .standard standardSocket] ∧
    (Gives strangerConnector brokenWorld).Fails .identities
      (.ssh (.identityUnreadable "k" OsError.notFound.message)) ∧
    (Gives strangerConnector brokenWorld).Fails .relay (.ssh (.relayFailed "no space left")) ∧
    (strangerConnector.connect brokenWorld).outcome =
      .error (.build (.ssh (.hostKeyUnknown "bastion:22"))) ∧
    ∀ host attempts, .dial host attempts ∉ (strangerConnector.connect brokenWorld).steps := by
  have unresolved : strangerConnector.resolver.resolveUnix = .noCandidate [.environment,
      .document "a.conf", .standard standardSocket] := by decide +kernel
  have found : strangerConnector.resolver.resolveSsh = .ok ⟨"ssh://bastion/s", "k", "a.conf"⟩ := by
    decide +kernel
  have targets : strangerConnector.Targets ⟨"ssh://bastion/s", "k", "a.conf"⟩ strangerParams :=
    ⟨found, by decide +kernel⟩
  have missing : Gives strangerConnector brokenWorld .identities (.identities ["k"])
      (.error (.ssh (.identityUnreadable "k" OsError.notFound.message))) := .identities targets
  obtain ⟨staged, -⟩ := connect_stages strangerConnector brokenWorld unresolved
  refine ⟨unresolved, ⟨_, missing⟩, ⟨_, .relay⟩, ?_, ?_⟩
  · exact (staged.stranger _ _ "" targets rfl rfl .unnamed fun _ ⟨_, line, _⟩ => nomatch line).1
  · exact (staged.undialled .identities (by decide) _ ⟨_, missing⟩).1

end Connector

end Gangway
