import Gangway.Proofs.Connection.Facade
import Gangway.Proofs.Resolution.Schemes

/-!
# Schemes from resolving to connecting

Three parts of a connection look at schemes: the scan of the documents, the mode that takes the
authority out of a unix URI, and the reading of an address that is dialled or of an ssh URI. They
agree: what was resolved from a document or a socket is never refused for its scheme. An address of
another scheme can only come from the variable, and is then refused as it was given.
-/

namespace Gangway

/-- The error blames the scheme of an address. -/
def Error.BlamesScheme (error : Error) : Prop :=
  ∃ address reason, error = .engine (.unsupportedScheme address reason)

namespace Error

theorem not_blamesScheme_ssh (error : SshError) : ¬(Error.ssh error).BlamesScheme := by
  rintro ⟨_, _, ⟨⟩⟩

theorem not_blamesScheme_resolution (error : ResolutionError) :
    ¬(Error.resolution error).BlamesScheme := by
  rintro ⟨_, _, ⟨⟩⟩

/-- What an error of a client means is told by the socket, not by the scheme of its address. -/
theorem not_blamesScheme_of_problem? {error : ClientError} {address : String}
    {other : EngineError} (plain : ¬(Error.engine other).BlamesScheme) :
    ¬(Error.engine ((error.problem? address).getD other)).BlamesScheme := by
  cases told : error.problem? address with
  | none => exact plain
  | some problem =>
    obtain ⟨path, rfl | rfl⟩ := ClientError.problem?_eq_some told
    · rintro ⟨_, _, ⟨⟩⟩
    · rintro ⟨_, _, ⟨⟩⟩

end Error

/-- A unix address is dialled as it is. -/
theorem dialable_of_isPrefix {address : String} (marked : unixMark.toList <+: address.toList) :
    dialable address = .ok address := by
  have path : (unixPath? address).isSome := by
    rw [Option.isSome_iff_ne_none, ne_eq, unixPath?_eq_none_iff, not_not]
    exact marked
  unfold dialable
  exact if_pos path

/-- An address of another scheme is refused. -/
theorem dialable_of_not_isPrefix {address : String} (other : ¬unixMark.toList <+: address.toList)
    (scheme : "://".toList <:+: address.toList) :
    ∃ reason, dialable address = .error (.unsupportedScheme address reason) := by
  unfold dialable
  dsimp only
  rw [if_neg (by simp [unixPath?_eq_none_iff.2 other])]
  split
  case h_1 before _ _ => exact ⟨_, rfl⟩
  case h_2 uncut => exact absurd scheme (Text.splitOnce_eq_none_iff.1 uncut)

/-- Setting up a client for a unix address never fails for the scheme. -/
theorem Client.not_blamesScheme_of_connect {files : Files} {address : String} {error : EngineError}
    (marked : unixMark.toList <+: address.toList)
    (failed : Client.connect files address = .error error) :
    ¬(Error.engine error).BlamesScheme := by
  unfold Client.connect at failed
  rw [dialable_of_isPrefix marked] at failed
  change (if _ then _ else _) = _ at failed
  split at failed
  · cases failed
  · cases failed
    refine Error.not_blamesScheme_of_problem? ?_
    rintro ⟨_, _, ⟨⟩⟩

/-- A probe never fails for the scheme. -/
theorem EngineClient.not_blamesScheme_of_probe {client : EngineClient} {error : EngineError}
    (failed : client.probe = .error error) : ¬(Error.engine error).BlamesScheme := by
  unfold EngineClient.probe Gangway.probe at failed
  split at failed
  · cases failed
    rintro ⟨_, _, ⟨⟩⟩
  · cases failed
  · cases failed
    refine Error.not_blamesScheme_of_problem? ?_
    rintro ⟨_, _, ⟨⟩⟩

namespace Connector

variable {connector : Connector} {world : World} {address value : String} {source : Source}
  {exhausted : List Source} {error : Error}

theorem direct_not_blamesScheme (marked : unixMark.toList <+: address.toList) :
    (connector.direct world address).Within (fun _ => True) (¬·.BlamesScheme) :=
  .bind (.caused trivial fun _ => Client.not_blamesScheme_of_connect marked) fun _ => .pure

/-- A tunnel ends at a relay, whose address is a unix address. -/
theorem tunnel_not_blamesScheme :
    (connector.tunnel world).Within (fun _ => True) (¬·.BlamesScheme) := by
  have own {α : Type} {taken : Step} {outcome : Except SshError α} :
      (Run.step taken (outcome.mapError Error.ssh)).Within (fun _ => True) (¬·.BlamesScheme) :=
    .caused trivial fun cause _ => Error.not_blamesScheme_ssh cause
  unfold tunnel
  refine .bind (.caused trivial fun cause _ => Error.not_blamesScheme_resolution cause)
    fun destination => ?_
  refine .bind own fun params => .bind own fun policy => .bind own fun methods =>
    .bind own fun session => .bind own fun socket => ?_
  have marked : unixMark.toList <+: (Route.tunnel destination.uri socket).address.toList := by
    rw [Route.address, String.toList_append]
    exact List.prefix_append _ _
  exact .bind (.caused trivial fun _ => Client.not_blamesScheme_of_connect marked) fun _ => .pure

theorem build_not_blamesScheme
    (unset : ∀ value, ¬connector.resolver.environment.Sets "CONTAINER_HOST" value)
    (failed : (connector.build world).outcome = .error error) : ¬error.BlamesScheme := by
  cases found : connector.resolver.resolveUnix with
  | resolved address source =>
    rw [build_of_resolved found] at failed
    exact (direct_not_blamesScheme (Resolver.unixMark_isPrefix unset found)).error error failed
  | noCandidate exhausted =>
    rw [build_of_unresolved found] at failed
    exact tunnel_not_blamesScheme.error error failed

/-- Without an address from the variable connecting never fails for the scheme. -/
theorem connect_not_blamesScheme {failure : ConnectFailure}
    (unset : ∀ value, ¬connector.resolver.environment.Sets "CONTAINER_HOST" value)
    (failed : (connector.connect world).outcome = .error failure) :
    ¬failure.error.BlamesScheme := by
  cases failure with
  | build error => exact build_not_blamesScheme unset (connect_outcome_eq_build_iff.1 failed)
  | unreachable client error =>
    exact EngineClient.not_blamesScheme_of_probe (connect_outcome_eq_unreachable_iff.1 failed).2

/-- An address of another scheme that the variable gives is refused. -/
theorem connect_of_other_scheme (set : connector.resolver.environment.Sets "CONTAINER_HOST" value)
    (scheme : "://".toList <:+: value.toList) (other : ¬unixMark.toList <+: value.toList) :
    ∃ reason, (connector.connect world).outcome =
      .error (.build (.engine (.unsupportedScheme value reason))) := by
  obtain ⟨reason, refused⟩ := dialable_of_not_isPrefix other scheme
  have failed : Client.connect connector.resolver.files value =
      .error (.unsupportedScheme value reason) := by
    unfold Client.connect
    rw [refused]
    rfl
  refine ⟨reason, connect_outcome_eq_build_iff.2 ?_⟩
  rw [build_of_resolved (Resolver.resolveUnix_of_sets set)]
  refine Run.outcome_bind_eq_error_iff.2 (.inl ?_)
  exact mapError_eq_error_iff.2 ⟨_, failed, rfl⟩

/-- What a run of connecting keeps to as to schemes. It may be refused before it starts; `admitted`
says that it is not. -/
structure KeepsSchemes (connector : Connector) (admitted : Prop)
    (run : Run ConnectFailure EngineClient) : Prop where
  /-- Without an address from the variable no scheme is found unsupported. -/
  supported : (∀ value, ¬connector.resolver.environment.Sets "CONTAINER_HOST" value) →
    ∀ failure, run.outcome = .error failure →
      ∀ address reason, failure.error ≠ .engine (.unsupportedScheme address reason)
  /-- An address of another scheme that the variable gives is refused, and the error carries it. -/
  unsupported : admitted → ∀ value, connector.resolver.environment.Sets "CONTAINER_HOST" value →
    "://".toList <:+: value.toList → ¬"unix://".toList <+: value.toList →
      ∃ reason, run.outcome = .error (.build (.engine (.unsupportedScheme value reason)))

/-- **Schemes from resolving to connecting.** What is resolved carries its scheme, so that no run of
connecting fails for a scheme unless the variable gives an address of another one, and then it
does. -/
theorem connect_schemes (connector : Connector) (world : World) :
    connector.resolver.KeepsSchemes ∧ connector.KeepsSchemes True (connector.connect world) ∧
      ∀ caller : Caller, connector.KeepsSchemes (caller = .blocking)
        (connector.connectBlocking caller world) := by
  have kept {admitted : Prop} (yes : admitted) :
      connector.KeepsSchemes admitted (connector.connect world) := {
    supported := fun unset failure failed address reason same =>
      connect_not_blamesScheme unset failed ⟨address, reason, same⟩
    unsupported := fun _ _ set scheme other => connect_of_other_scheme set scheme other }
  refine ⟨connector.resolver.keepsSchemes, kept trivial, fun caller => ?_⟩
  rcases caller.blocking_or_refused with rfl | ⟨other, reason, refused⟩
  · exact kept rfl
  · rw [connectBlocking_of_refused refused]
    -- The call is refused before any step, and the refusal is no scheme's.
    exact {
      supported := by
        rintro - _ ⟨⟩ _ _ ⟨⟩
      unsupported := fun admitted => absurd admitted other }

end Connector

end Gangway
