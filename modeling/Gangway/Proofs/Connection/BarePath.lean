import Gangway.Proofs.Connection.Facade
import Gangway.Proofs.Connection.Spelling
import Gangway.Proofs.Resolution.UnixChain

/-!
# Probing the engine behind a bare path

A client for a bare path is the client for the unix address of that path. A probe is told the
address as it was resolved, and a bare path has no path after a mark: of the problems of the socket,
which a probe tells of under the unix address, only their text is left (`bare_path_probed`). Under
both spellings connecting succeeds alike and fails alike but for these errors.
-/

namespace Gangway

variable {connector : Connector} {world : World} {ping : Ping} {path address : String}
  {problem : EngineError} {caller : Caller}

/-- The ping tells, in time, of this problem of the socket at a path. -/
inductive Ping.Tells (ping : Ping) (path : String) (problem : EngineError) : Prop where
  | failed {error : ClientError}
      (answer : ping.within (1000 * livenessSeconds) = some (.error error))
      (told : error.Tells path problem)

/-- The engine behind a path is probed alike by the path and by its unix address. -/
def ProbedAlike (ping : Ping) (path : String) : Prop :=
  probe ping path = probe ping (unixMark ++ path)

theorem ne_empty_of_absolute (absolute : "/".toList <+: path.toList) : path ≠ "" := by
  rintro rfl
  cases List.prefix_nil.1 absolute

theorem unixMark_append_ne_empty (path : String) : unixMark ++ path ≠ "" := by
  intro empty
  have first := isPrefix_unixMark_append path
  rw [empty] at first
  cases List.prefix_nil.1 first

theorem unixPath?_of_absolute (absolute : "/".toList <+: path.toList) : unixPath? path = none :=
  unixPath?_eq_none_iff.2 (not_unixMark_of_absolute absolute)

/-- Under the unix address a problem of the socket is what the probe fails with. By the bare path it
fails with the text of the error. -/
theorem probe_of_tells {error : ClientError} (absolute : "/".toList <+: path.toList)
    (answer : ping.within (1000 * livenessSeconds) = some (.error error))
    (tells : error.Tells path problem) :
    probe ping (unixMark ++ path) = .error problem ∧
      probe ping path = .error (.livenessCheckFailed error.message) := by
  unfold probe
  simp only [answer, tells.reported.2,
    ClientError.whenProbing_of_pathless (unixPath?_of_absolute absolute), and_self]

/-- A problem of the socket is told by the text of an error at most, and never as one. -/
theorem Ping.Tells.probe_ne (tells : ping.Tells path problem)
    (absolute : "/".toList <+: path.toList) : probe ping path ≠ .error problem := by
  obtain ⟨answer, told⟩ := tells
  rw [(probe_of_tells absolute answer told).2]
  rintro ⟨⟩
  rcases told.eq_or_eq with same | same <;> cases same

theorem Ping.Tells.probe_unixMark_append (tells : ping.Tells path problem)
    (absolute : "/".toList <+: path.toList) : probe ping (unixMark ++ path) = .error problem := by
  obtain ⟨answer, told⟩ := tells
  exact (probe_of_tells absolute answer told).1

theorem Ping.Tells.exists_probe (tells : ping.Tells path problem)
    (absolute : "/".toList <+: path.toList) :
    ∃ text, probe ping path = .error (.livenessCheckFailed text) := by
  obtain ⟨answer, told⟩ := tells
  exact ⟨_, (probe_of_tells absolute answer told).2⟩

/-- Problems of the socket alone tell the two spellings apart. -/
theorem probedAlike_iff (absolute : "/".toList <+: path.toList) :
    ProbedAlike ping path ↔ ∀ problem, ¬ping.Tells path problem := by
  constructor
  · intro alike problem tells
    exact tells.probe_ne absolute (alike.trans (tells.probe_unixMark_append absolute))
  · intro untold
    unfold ProbedAlike probe
    cases answer : ping.within (1000 * livenessSeconds) with
    | none => rfl
    | some result =>
      cases result with
      | ok text => rfl
      | error error =>
        have silent (problem : EngineError) : ¬error.Tells path problem :=
          fun told => untold problem (.failed answer told)
        simp only [ClientError.whenProbing_of_pathless (unixPath?_of_absolute absolute),
          (ClientError.reported_of_untold silent).2]

/-- Where both runs fail, they fail with the same error. -/
def Run.FailAlike (run other : Run ConnectFailure EngineClient) : Prop :=
  ∀ failure failure', run.outcome = .error failure → other.outcome = .error failure' →
    failure.error = failure'.error

namespace Connector

/-- The connector where the variable of the address is set to a value. -/
def withHost (connector : Connector) (value : String) : Connector :=
  { connector with resolver := { connector.resolver with
      environment := connector.resolver.environment.assign "CONTAINER_HOST" (some value) } }

theorem resolveUnix_withHost (given : address ≠ "") :
    (connector.withHost address).resolver.resolveUnix = .resolved address .environment := by
  refine Resolver.resolveUnix_of_sets ⟨?_, given⟩
  simp [withHost, Environment.assign]

/-- A client is built for the address that the variable gives, if one can be set up for it. -/
theorem builds_withHost_iff (given : address ≠ "") {client : EngineClient} :
    Builds (connector.withHost address) world client ↔
      ∃ inner, Client.connect connector.resolver.files address = .ok inner ∧
        ⟨.unix address, world.engine inner.socket⟩ = client := by
  rw [← build_outcome_eq_ok_iff, build_of_resolved (resolveUnix_withHost given)]
  exact direct_outcome_eq_ok_iff

theorem connect_withHost_eq_build_iff (given : address ≠ "") {error : Error} :
    ((connector.withHost address).connect world).outcome = .error (.build error) ↔
      ∃ cause, Client.connect connector.resolver.files address = .error cause ∧
        .engine cause = error := by
  rw [connect_outcome_eq_build_iff, build_of_resolved (resolveUnix_withHost given)]
  exact direct_outcome_eq_error_iff

theorem connect_withHost_eq_unreachable_iff (given : address ≠ "") {client : EngineClient}
    {error : EngineError} :
    ((connector.withHost address).connect world).outcome = .error (.unreachable client error) ↔
      ∃ inner, Client.connect connector.resolver.files address = .ok inner ∧
        ⟨.unix address, world.engine inner.socket⟩ = client ∧
        probe (world.engine inner.socket) address = .error error := by
  rw [connect_outcome_eq_unreachable_iff, builds_withHost_iff given]
  constructor
  · rintro ⟨⟨inner, dialled, rfl⟩, probed⟩
    exact ⟨inner, dialled, rfl, probed⟩
  · rintro ⟨inner, dialled, rfl, probed⟩
    exact ⟨⟨inner, dialled, rfl⟩, probed⟩

/-- Connecting fails because no client can be set up, or else because its probe fails. -/
theorem error_of_connect_withHost (given : address ≠ "") {failure : ConnectFailure}
    (failed : ((connector.withHost address).connect world).outcome = .error failure) :
    (∃ cause, Client.connect connector.resolver.files address = .error cause ∧
      failure.error = .engine cause) ∨
    ∃ inner error, Client.connect connector.resolver.files address = .ok inner ∧
      probe (world.engine inner.socket) address = .error error ∧ failure.error = .engine error := by
  cases failure with
  | build error =>
    obtain ⟨cause, refused, rfl⟩ := (connect_withHost_eq_build_iff given).1 failed
    exact .inl ⟨cause, refused, rfl⟩
  | unreachable client error =>
    obtain ⟨inner, dialled, rfl, probed⟩ := (connect_withHost_eq_unreachable_iff given).1 failed
    exact .inr ⟨inner, error, dialled, probed, rfl⟩

/-- By a bare path and under its unix address connecting fails alike, unless a client is set up and
its ping tells of a problem of the socket. -/
theorem connect_failAlike_iff (absolute : "/".toList <+: path.toList)
    (bare : ¬"://".toList <:+: path.toList) :
    ((connector.withHost path).connect world).FailAlike
        ((connector.withHost (unixMark ++ path)).connect world) ↔
      ∀ client, Client.connect connector.resolver.files path = .ok client →
        ∀ problem, ¬(world.engine client.socket).Tells path problem := by
  have given : path ≠ "" := ne_empty_of_absolute absolute
  have given' : unixMark ++ path ≠ "" := unixMark_append_ne_empty path
  have same : Client.connect connector.resolver.files path =
      Client.connect connector.resolver.files (unixMark ++ path) :=
    Client.connect_of_bare absolute bare
  constructor
  · intro alike client dialled problem tells
    obtain ⟨text, failed⟩ := tells.exists_probe absolute
    have byPath := (connect_withHost_eq_unreachable_iff given).2 ⟨client, dialled, rfl, failed⟩
    have byAddress := (connect_withHost_eq_unreachable_iff given').2
      ⟨client, same ▸ dialled, rfl, tells.probe_unixMark_append absolute⟩
    cases alike _ _ byPath byAddress
    exact tells.probe_ne absolute failed
  · intro untold failure failure' failed failed'
    rcases error_of_connect_withHost given failed with
      ⟨cause, refused, told⟩ | ⟨client, error, dialled, probed, told⟩
    · rcases error_of_connect_withHost given' failed' with
        ⟨cause', refused', told'⟩ | ⟨client', error', dialled', probed', told'⟩
      · cases refused.symm.trans (same.trans refused')
        rw [told, told']
      · cases refused.symm.trans (same.trans dialled')
    · rcases error_of_connect_withHost given' failed' with
        ⟨cause', refused', told'⟩ | ⟨client', error', dialled', probed', told'⟩
      · cases dialled.symm.trans (same.trans refused')
      · cases dialled.symm.trans (same.trans dialled')
        have probedAlike := (probedAlike_iff absolute).2 (untold client dialled)
        cases probed.symm.trans (probedAlike.trans probed')
        rw [told, told']

/-- Both spellings build, or fail to, alike. -/
theorem connect_build_iff (absolute : "/".toList <+: path.toList)
    (bare : ¬"://".toList <:+: path.toList) {error : Error} :
    ((connector.withHost path).connect world).outcome = .error (.build error) ↔
      ((connector.withHost (unixMark ++ path)).connect world).outcome = .error (.build error) := by
  rw [connect_withHost_eq_build_iff (ne_empty_of_absolute absolute),
    connect_withHost_eq_build_iff (unixMark_append_ne_empty path),
    Client.connect_of_bare absolute bare]

/-- Both spellings connect, or fail to, alike. -/
theorem exists_connect_eq_ok_iff (absolute : "/".toList <+: path.toList)
    (bare : ¬"://".toList <:+: path.toList) :
    (∃ client, ((connector.withHost path).connect world).outcome = .ok client) ↔
      ∃ client, ((connector.withHost (unixMark ++ path)).connect world).outcome = .ok client := by
  simp only [connect_outcome_eq_ok_iff, builds_withHost_iff (ne_empty_of_absolute absolute),
    builds_withHost_iff (unixMark_append_ne_empty path), Client.connect_of_bare absolute bare]
  -- Whether the engine answers does not depend on the address that it is pinged under.
  constructor
  · rintro ⟨_, ⟨inner, dialled, rfl⟩, answers⟩
    exact ⟨_, ⟨inner, dialled, rfl⟩, answers⟩
  · rintro ⟨_, ⟨inner, dialled, rfl⟩, answers⟩
    exact ⟨_, ⟨inner, dialled, rfl⟩, answers⟩

end Connector

/-- How the engine behind a bare path is probed, and connected to, by the path and under its unix
address. -/
structure ProbedBare (path : String) : Prop where
  /-- Both spellings are probed alike unless the ping tells of a problem of the socket. -/
  probed : ∀ ping, ProbedAlike ping path ↔ ∀ problem, ¬ping.Tells path problem
  /-- A probe that is refused is so under both. -/
  blocking : ∀ caller ping,
    probeBlocking caller ping path = probeBlocking caller ping (unixMark ++ path) ↔
      (caller = .blocking → ∀ problem, ¬ping.Tells path problem)
  /-- By the path the problem of the socket is lost but for the text of the error. -/
  lost : ∀ ping error problem, ping.within (1000 * livenessSeconds) = some (.error error) →
    error.Tells path problem → probe ping (unixMark ++ path) = .error problem ∧
      probe ping path = .error (.livenessCheckFailed error.message)
  /-- Connecting fails for want of a client with the same error under both. -/
  unbuilt : ∀ (connector : Connector) world error,
    ((connector.withHost path).connect world).outcome = .error (.build error) ↔
      ((connector.withHost (unixMark ++ path)).connect world).outcome = .error (.build error)
  /-- Connecting succeeds under both or under neither. -/
  connected : ∀ (connector : Connector) world,
    (∃ client, ((connector.withHost path).connect world).outcome = .ok client) ↔
      ∃ client, ((connector.withHost (unixMark ++ path)).connect world).outcome = .ok client
  /-- Connecting fails alike unless the engine's ping tells of a problem of the socket. -/
  failing : ∀ (connector : Connector) world,
    ((connector.withHost path).connect world).FailAlike
        ((connector.withHost (unixMark ++ path)).connect world) ↔
      ∀ client, Client.connect connector.resolver.files path = .ok client →
        ∀ problem, ¬(world.engine client.socket).Tells path problem
  /-- So it is for a call that is not refused. -/
  failingBlocking : ∀ (connector : Connector) world caller,
    ((connector.withHost path).connectBlocking caller world).FailAlike
        ((connector.withHost (unixMark ++ path)).connectBlocking caller world) ↔
      (caller = .blocking → ∀ client, Client.connect connector.resolver.files path = .ok client →
        ∀ problem, ¬(world.engine client.socket).Tells path problem)

/-- **Probing by a bare path.** For every absolute path without a mark in it, the two spellings of
the address are probed alike, and connecting fails alike under both, exactly if no problem of the
socket is told of. -/
theorem bare_path_probed (path : String) (absolute : "/".toList <+: path.toList)
    (bare : ¬"://".toList <:+: path.toList) : ProbedBare path where
  probed _ := probedAlike_iff absolute
  blocking caller ping := by
    rcases caller.blocking_or_refused with rfl | ⟨other, reason, refused⟩
    · exact (probedAlike_iff absolute).trans (imp_iff_right rfl).symm
    · unfold probeBlocking
      rw [refused]
      exact ⟨fun _ admitted => absurd admitted other, fun _ => rfl⟩
  lost _ _ _ answer tells := probe_of_tells absolute answer tells
  unbuilt _ _ _ := Connector.connect_build_iff absolute bare
  connected _ _ := Connector.exists_connect_eq_ok_iff absolute bare
  failing _ _ := Connector.connect_failAlike_iff absolute bare
  failingBlocking connector world caller := by
    rcases caller.blocking_or_refused with rfl | ⟨other, reason, refused⟩
    · exact (Connector.connect_failAlike_iff absolute bare).trans (imp_iff_right rfl).symm
    · rw [Connector.connectBlocking_of_refused refused, Connector.connectBlocking_of_refused refused]
      refine ⟨fun _ admitted => absurd admitted other, fun _ failure failure' failed failed' => ?_⟩
      cases failed
      cases failed'
      rfl

/-- A ping that finds no socket. -/
def missingPing : Ping := .now (.error (.io { kind := .notFound }))

theorem missingPing_tells (path : String) : missingPing.Tells path (.socketNotFound path) := by
  have decides : (ClientError.io { kind := .notFound }).Decides .notFound := .own rfl nofun
  exact .failed (Timed.within_now _ _) (.decided decides .missing)

/-- A missing socket is told under its unix address, and by its path only that something is not
found. -/
theorem bare_path_probed_missing :
    "/".toList <+: "/run/podman.sock".toList ∧ ¬"://".toList <:+: "/run/podman.sock".toList ∧
      probe missingPing (unixMark ++ "/run/podman.sock") =
        .error (.socketNotFound "/run/podman.sock") ∧
      probe missingPing "/run/podman.sock" = .error (.livenessCheckFailed "entity not found") := by
  have absolute : "/".toList <+: "/run/podman.sock".toList := ⟨"run/podman.sock".toList, rfl⟩
  have bare : ¬"://".toList <:+: "/run/podman.sock".toList := by decide +kernel
  obtain ⟨answer, told⟩ := missingPing_tells "/run/podman.sock"
  cases Option.some.inj answer
  exact ⟨absolute, bare, (bare_path_probed _ absolute bare).lost _ _ _ answer told⟩

/-- So the two spellings of a missing socket are not probed alike. -/
theorem not_probedAlike_missing : ¬ProbedAlike missingPing "/run/podman.sock" := by
  rw [probedAlike_iff ⟨"run/podman.sock".toList, rfl⟩]
  exact fun untold => untold _ (missingPing_tells "/run/podman.sock")

end Gangway
