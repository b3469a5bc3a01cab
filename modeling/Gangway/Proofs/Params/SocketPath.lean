import Gangway.Proofs.Params.Parts
import Gangway.Ssh.Handshake

/-!
# Destinations without a socket path

Nothing asks whether a destination names a socket. The path of accepted parameters is absolute where
a path follows the authority of the URI and empty where none does, with a query or a fragment or
without, and a URI is accepted with any path, and without one, as soon as it is accepted with one
(`path_absolute_unless_pathless`). A session then asks the bastion for a channel to the empty path.
-/

namespace Gangway.Ssh

open Uri (Shape cleaned authorityEnds)

/-- The URI has no path: it ends behind its place, or a query or a fragment follows at once. A
backslash in the place begins a path too. -/
def Pathless (uri : String) : Prop :=
  ∃ scheme user place rest, Shape (cleaned uri.toList) scheme user place rest ∧ '\\' ∉ place ∧
    ¬ ['/'] <+: rest

/-- The URIs differ at most in what follows the authority. -/
def SameAuthority (uri other : String) : Prop :=
  ∃ scheme user place rest more, Shape (cleaned uri.toList) scheme user place rest ∧
    Shape (cleaned other.toList) scheme user place more

namespace Params

variable {localUser uri keyPath : String} {passphrase : Option String} {params : Params}

/-- The path is missing exactly where the URI has none, and absolute otherwise. -/
theorem path_of_ofUri (accepted : ofUri localUser uri keyPath passphrase = .ok params) :
    Pathless uri ∧ params.path = "" ∨ ¬ Pathless uri ∧ ['/'] <+: params.path.toList := by
  obtain ⟨parsed, host, read, ssh, hosted, -, -, path, -⟩ := exists_host_of_ofUri accepted
  have some : parsed.host ≠ none := by
    rw [hosted]
    exact Option.some_ne_none host
  obtain ⟨scheme, user, place, rest, credentials, shape, read, -⟩ :=
    Uri.exists_shape_of_parse read ssh some
  rw [path]
  rcases Uri.path_cases read hosted shape.unmarked shape.ends with
    ⟨empty, plain, unslashed⟩ | ⟨absolute, begun⟩
  · exact .inl ⟨⟨scheme, user, place, rest, shape, plain, unslashed⟩, empty⟩
  · refine .inr ⟨?_, absolute⟩
    rintro ⟨scheme', user', place', rest', other, plain, unslashed⟩
    obtain ⟨-, -, rfl, rfl⟩ := shape.unique other
    rcases begun with backslash | slash
    · exact plain backslash
    · exact unslashed slash

/-- What follows the authority is no reason to refuse a URI: it only changes the path and the
check. -/
theorem ofUri_of_sameAuthority (accepted : ofUri localUser uri keyPath passphrase = .ok params)
    {other : String} (same : SameAuthority uri other) :
    ∃ path secure, ofUri localUser other keyPath passphrase =
      .ok { params with path, secure } := by
  obtain ⟨parsed, host, read, ssh, hosted, -, -, -, again⟩ := exists_host_of_ofUri accepted
  have some : parsed.host ≠ none := by
    rw [hosted]
    exact Option.some_ne_none host
  obtain ⟨scheme, user, place, rest, credentials, shape, read, reread⟩ :=
    Uri.exists_shape_of_parse read ssh some
  obtain ⟨scheme', user', place', rest', more, shape', shapeOther⟩ := same
  obtain ⟨rfl, rfl, rfl, rfl⟩ := shape.unique shape'
  obtain ⟨left, -, -, changed⟩ := Uri.exists_readPlace shape.unmarked read
  exact ⟨_, _, again other _ _ ((reread other more shapeOther).trans (changed more))⟩

/-- Every refusal is one of the URI. -/
theorem error_of_ofUri {error : SshError}
    (refused : ofUri localUser uri keyPath passphrase = .error error) :
    ∃ message, error = .uriParse uri message := by
  unfold ofUri at refused
  dsimp only at refused
  split at refused
  · cases refused
    exact ⟨_, rfl⟩
  split at refused
  · cases refused
    exact ⟨_, rfl⟩
  split at refused
  · cases refused
    exact ⟨_, rfl⟩
  · cases refused

end Params

/-- A session reaches for the path of the parameters that its handshake was made with. -/
theorem Handshake.remotePath_of_run {bastion : Bastion} {params : Params} {policy : HostKeyPolicy}
    {methods : AuthMethods} {session : Session}
    (established : (run bastion params policy methods).outcome = .ok session) :
    session.remotePath = params.path := by
  have concluded (verdict : Verdict) (done : conclude bastion params verdict = .ok session) :
      session.remotePath = params.path := by
    cases verdict with
    | accepted =>
      cases done
      rfl
    | refused => cases done
    | failed message => cases done
    | late => cases done
  unfold run at established
  dsimp only at established
  split at established
  case h_1 => exact concluded .late established
  case h_2 message _ => exact concluded (.failed message) established
  case h_3 =>
    split at established
    case isTrue => exact concluded _ established
    case isFalse => exact concluded (.failed bastion.distrusted) established

/-- **Which destinations name a socket.** Accepted parameters have an empty path exactly where the
URI has none, with a query or a fragment or without, and an absolute one otherwise. Whatever follows
the authority of a URI can be left out or replaced without its being refused. Refusals name the URI,
and a session asks for the path as it is. -/
theorem path_absolute_unless_pathless (localUser uri keyPath : String)
    (passphrase : Option String) :
    (∀ params, Params.ofUri localUser uri keyPath passphrase = .ok params →
      (['/'] <+: params.path.toList ↔ ¬ Pathless uri) ∧ (params.path = "" ↔ Pathless uri) ∧
      (∀ other, SameAuthority uri other → ∃ path secure,
        Params.ofUri localUser other keyPath passphrase = .ok { params with path, secure }) ∧
      ∀ bastion policy methods session,
        (Handshake.run bastion params policy methods).outcome = .ok session →
        session.remotePath = params.path) ∧
    ∀ error, Params.ofUri localUser uri keyPath passphrase = .error error →
      ∃ message, error = .uriParse uri message := by
  refine ⟨fun params accepted => ⟨?_, ?_, ?_, ?_⟩, fun _ => Params.error_of_ofUri⟩
  · rcases Params.path_of_ofUri accepted with ⟨pathless, empty⟩ | ⟨pathed, absolute⟩
    · rw [empty]
      simp [pathless]
    · simp [absolute, pathed]
  · rcases Params.path_of_ofUri accepted with ⟨pathless, empty⟩ | ⟨pathed, absolute⟩
    · simp [pathless, empty]
    · refine iff_of_false (fun empty => ?_) pathed
      rw [empty] at absolute
      simp at absolute
  · exact fun other => Params.ofUri_of_sameAuthority accepted
  · exact fun bastion policy methods session => Handshake.remotePath_of_run

/-- A bastion that accepts every attempt. -/
def openBastion : Bastion where
  greeting := .now (.ok (.other "a@b" [7]))
  distrusted := ""
  signatureHash _ _ := .now (.ok none)
  reply _ _ _ := .now .accepted
  channel _ := .ok ()
  engine _ := .never

/-- With its path left out a destination is accepted, and a session with its bastion reaches for the
empty path. -/
theorem path_absolute_unless_pathless_bastion :
    ∃ path secure session, Params.ofUri "ana" "ssh://core@bastion?secure=0" "/keys/id" none =
        .ok ⟨"bastion:22", "bastion", 22, path, "core", "/keys/id", none, secure, ""⟩ ∧
      (Handshake.run openBastion
        ⟨"bastion:22", "bastion", 22, path, "core", "/keys/id", none, secure, ""⟩
        .acceptAny {}).outcome = .ok session ∧
      session.remotePath = "" := by
  have accepted : Params.ofUri "ana" "ssh://core@bastion/run/podman.sock" "/keys/id" none = .ok
      ⟨"bastion:22", "bastion", 22, "/run/podman.sock", "core", "/keys/id", none, true, ""⟩ := by
    decide +kernel
  have plain : ∀ c ∈ "core@".toList ++ "bastion".toList, c ∉ authorityEnds := by
    simp [authorityEnds]
  have written : Shape (cleaned "ssh://core@bastion/run/podman.sock".toList) "ssh".toList
      "core@".toList "bastion".toList "/run/podman.sock".toList :=
    ⟨by decide +kernel, by decide, .inr ⟨"core".toList, by decide⟩, by decide, plain,
      by simp [authorityEnds]⟩
  have pathless : Shape (cleaned "ssh://core@bastion?secure=0".toList) "ssh".toList
      "core@".toList "bastion".toList "?secure=0".toList :=
    ⟨by decide +kernel, by decide, .inr ⟨"core".toList, by decide⟩, by decide, plain,
      by simp [authorityEnds]⟩
  obtain ⟨-, -, open', -⟩ := (path_absolute_unless_pathless _ _ _ _).1 _ accepted
  obtain ⟨path, secure, accepted⟩ := open' _ ⟨_, _, _, _, _, written, pathless⟩
  obtain ⟨-, empty, -, reached⟩ := (path_absolute_unless_pathless _ _ _ _).1 _ accepted
  have established : ∃ session, (Handshake.run openBastion
      ⟨"bastion:22", "bastion", 22, path, "core", "/keys/id", none, secure, ""⟩
      .acceptAny {}).outcome = .ok session := ⟨_, rfl⟩
  obtain ⟨session, established⟩ := established
  refine ⟨path, secure, session, accepted, established, ?_⟩
  rw [reached openBastion .acceptAny {} session established]
  exact empty.2 ⟨_, _, _, _, pathless, by decide, by decide⟩

/-- Not every accepted URI names an absolute path. -/
theorem not_path_absolute_bastion :
    ¬ ∀ localUser uri keyPath passphrase params,
      Params.ofUri localUser uri keyPath passphrase = .ok params →
      ['/'] <+: params.path.toList := by
  intro absolute
  have accepted : Params.ofUri "ana" "ssh://core@bastion" "/keys/id" none =
      .ok ⟨"bastion:22", "bastion", 22, "", "core", "/keys/id", none, true, ""⟩ := by
    decide +kernel
  exact absurd (absolute _ _ _ _ _ accepted) (by decide)

end Gangway.Ssh
