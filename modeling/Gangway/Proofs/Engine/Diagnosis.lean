import Gangway.Engine.Classification

/-!
# Which cause of an error is told

An error of a client may have several I/O errors in it: itself, and causes of it. One alone decides
what the error means (`Decides`): the nearest of its causes that is an I/O error, or the error
itself where none of them is. A missing socket or a denied permission is therefore told if it
decides, and lost behind an I/O error of another kind that does.
-/

namespace Gangway

/-- A unix address has the path that follows its front. -/
theorem unixPath?_unixMark_append (path : String) : unixPath? (unixMark ++ path) = some path := by
  have dropped : Text.dropLeading unixMark.toList (unixMark ++ path).toList = some path.toList :=
    Text.dropLeading_eq_some_iff.2 String.toList_append
  rw [unixPath?, dropped, Option.map_some, String.ofList_toList]

/-- The kinds that tell of a problem of the socket at a path, and of which. -/
inductive IoKind.Tells (path : String) : IoKind → EngineError → Prop where
  | missing : Tells path .notFound (.socketNotFound path)
  | denied : Tells path .permissionDenied (.permissionDenied path)

namespace ClientError

variable {error : ClientError} {kind : IoKind} {path : String} {problem : EngineError}

/-- An I/O error of the kind stands in the error: it is the error itself or one of its causes. -/
inductive Contains (error : ClientError) (kind : IoKind) : Prop where
  | own (given : error.ownKind? = some kind)
  | cause (member : some kind ∈ error.causes)

/-- An I/O error of the kind decides: no cause in front of it is one, and the error itself only
decides where no cause does. -/
inductive Decides (error : ClientError) (kind : IoKind) : Prop where
  | cause {nearer further : List Cause} (chain : error.causes = nearer ++ some kind :: further)
      (others : ∀ cause ∈ nearer, cause = none)
  | own (given : error.ownKind? = some kind) (others : ∀ cause ∈ error.causes, cause = none)

/-- The problem of the socket at a path that an error tells of, without an I/O error or by the one
that decides. -/
inductive Tells (error : ClientError) (path : String) (problem : EngineError) : Prop where
  | missing {place : String} (given : error = .socketMissing place)
      (told : problem = .socketNotFound path)
  | decided {kind : IoKind} (decides : error.Decides kind) (told : kind.Tells path problem)

theorem kind?_eq_some_iff : error.kind? = some kind ↔ error.Decides kind := by
  unfold kind?
  cases nearest : error.causes.findSome? id with
  | some found =>
    obtain ⟨nearer, cause, further, chain, rfl, others⟩ := List.findSome?_eq_some_iff.1 nearest
    constructor
    · rintro ⟨⟩
      exact .cause chain others
    · rintro (⟨chain', others'⟩ | ⟨-, others'⟩)
      · have hit : error.causes.findSome? id = some kind :=
          List.findSome?_eq_some_iff.2 ⟨_, some kind, _, chain', rfl, others'⟩
        exact nearest.symm.trans hit
      · have member : some found ∈ error.causes := chain ▸ List.mem_append_cons_self
        cases others' _ member
  | none =>
    have others := List.findSome?_eq_none_iff.1 nearest
    constructor
    · exact fun given => .own given others
    · rintro (⟨chain, -⟩ | ⟨given, -⟩)
      · have member : some kind ∈ error.causes := chain ▸ List.mem_append_cons_self
        cases others _ member
      · exact given

theorem Decides.contains (decides : error.Decides kind) : error.Contains kind := by
  cases decides with
  | cause chain _ => exact .cause (chain ▸ List.mem_append_cons_self)
  | own given _ => exact .own given

theorem Decides.unique {decider : IoKind} (decides : error.Decides kind)
    (decides' : error.Decides decider) : decider = kind :=
  Option.some.inj ((kind?_eq_some_iff.2 decides').symm.trans (kind?_eq_some_iff.2 decides))

/-- If an I/O error stands in the error at all, one decides. -/
theorem Contains.exists_decides (contains : error.Contains kind) :
    ∃ decider, error.Decides decider := by
  simp only [← kind?_eq_some_iff, ← Option.ne_none_iff_exists']
  intro none
  unfold kind? at none
  split at none
  case h_1 => cases none
  case h_2 nearest =>
    cases contains with
    | own given => cases none.symm.trans given
    | cause member => cases List.findSome?_eq_none_iff.1 nearest _ member

theorem socketProblem?_eq_some_iff :
    socketProblem? (unixMark ++ path) kind = some problem ↔ kind.Tells path problem := by
  unfold socketProblem?
  rw [unixPath?_unixMark_append]
  constructor
  · intro told
    split at told
    · cases told
      exact .missing
    · cases told
      exact .denied
    · cases told
  · rintro (_ | _)
    · rfl
    · rfl

theorem not_contains_socketMissing {place : String} : ¬(socketMissing place).Contains kind := by
  rintro (given | member)
  · cases given
  · exact List.not_mem_nil member

/-- The problem of the socket behind a unix address is the one that the error tells of. -/
theorem problem?_eq_some_iff :
    error.problem? (unixMark ++ path) = some problem ↔ error.Tells path problem := by
  unfold problem?
  split
  case h_1 place =>
    rw [socketProblem?_eq_some_iff]
    constructor
    · rintro ⟨⟩
      exact .missing rfl rfl
    · rintro (⟨-, rfl⟩ | ⟨decides, -⟩)
      · exact .missing
      · exact absurd decides.contains not_contains_socketMissing
  case h_2 seen =>
    simp only [Option.bind_eq_some_iff, kind?_eq_some_iff, socketProblem?_eq_some_iff]
    constructor
    · rintro ⟨kind, decides, told⟩
      exact .decided decides told
    · rintro (⟨given, -⟩ | ⟨decides, told⟩)
      · exact absurd given (seen _)
      · exact ⟨_, decides, told⟩

/-- Without a path there is no socket whose problem could be told. -/
theorem whenProbing_of_pathless {address : String} (pathless : unixPath? address = none) :
    error.whenProbing address = .livenessCheckFailed error.message := by
  have untold (kind : IoKind) : socketProblem? address kind = none := by
    unfold socketProblem?
    rw [pathless]
    split <;> rfl
  have none : error.problem? address = none := by
    unfold problem?
    split
    · exact untold _
    · exact Option.bind_eq_none_iff.2 fun kind _ => untold kind
  rw [whenProbing, none, Option.getD_none]

theorem Tells.eq_or_eq (tells : error.Tells path problem) :
    problem = .socketNotFound path ∨ problem = .permissionDenied path := by
  rcases tells with ⟨-, rfl⟩ | ⟨-, told⟩
  · exact .inl rfl
  · cases told with
    | missing => exact .inl rfl
    | denied => exact .inr rfl

/-- What an error tells is reported, whether a client is set up or an engine probed. -/
theorem Tells.reported (tells : error.Tells path problem) :
    error.whenConnecting (unixMark ++ path) = problem ∧
      error.whenProbing (unixMark ++ path) = problem := by
  have told := problem?_eq_some_iff.2 tells
  unfold whenConnecting whenProbing
  rw [told]
  exact ⟨rfl, rfl⟩

/-- An error that tells of no problem of the socket is reported by its text. -/
theorem reported_of_untold (untold : ∀ problem, ¬error.Tells path problem) :
    error.whenConnecting (unixMark ++ path) = .connectionFailed error.message ∧
      error.whenProbing (unixMark ++ path) = .livenessCheckFailed error.message := by
  have none : error.problem? (unixMark ++ path) = none :=
    Option.eq_none_iff_forall_ne_some.2 fun problem told =>
      untold problem (problem?_eq_some_iff.1 told)
  unfold whenConnecting whenProbing
  rw [none]
  exact ⟨rfl, rfl⟩

/-- A problem of the socket is recognised wherever it stands in the error: some such problem is
reported, and the same when a client is set up and when an engine is probed. -/
def Recognised (error : ClientError) (path : String) : Prop :=
  (∃ kind problem, error.Contains kind ∧ kind.Tells path problem) →
    ∃ kind problem, IoKind.Tells path kind problem ∧
      error.whenConnecting (unixMark ++ path) = problem ∧
      error.whenProbing (unixMark ++ path) = problem

/-- A problem of the socket goes unrecognised exactly if it stands in the error and an I/O error of
a kind that tells of none decides. -/
theorem recognised_iff :
    error.Recognised path ↔ ((∃ kind problem, error.Contains kind ∧ kind.Tells path problem) →
      ∃ kind problem, error.Decides kind ∧ kind.Tells path problem) := by
  refine imp_congr_right fun ⟨_, _, contains, _⟩ => ?_
  constructor
  · rintro ⟨kind, problem, told, connecting, -⟩
    cases given : error.problem? (unixMark ++ path) with
    | some problem =>
      rcases problem?_eq_some_iff.1 given with ⟨rfl, -⟩ | ⟨decides, told⟩
      · exact absurd contains not_contains_socketMissing
      · exact ⟨_, problem, decides, told⟩
    | none =>
      rw [whenConnecting, given] at connecting
      cases connecting
      cases told
  · rintro ⟨kind, problem, decides, told⟩
    exact ⟨kind, problem, told, (Tells.decided decides told).reported⟩

/-- How an error of a client is diagnosed at the socket of a path. -/
structure Diagnosed (error : ClientError) (path : String) : Prop where
  /-- If I/O errors stand in it, exactly one decides. -/
  decided : (∃ kind, error.Contains kind) →
    ∃ kind, error.Decides kind ∧ ∀ decider, error.Decides decider → decider = kind
  /-- What it tells of the socket is reported, whatever fails by it. -/
  told : ∀ problem, error.Tells path problem →
    error.whenConnecting (unixMark ++ path) = problem ∧
      error.whenProbing (unixMark ++ path) = problem
  /-- If it tells nothing of the socket, its text is reported. -/
  untold : (∀ problem, ¬error.Tells path problem) →
    error.whenConnecting (unixMark ++ path) = .connectionFailed error.message ∧
      error.whenProbing (unixMark ++ path) = .livenessCheckFailed error.message
  /-- A problem of the socket that stands in it is recognised exactly if one decides. -/
  recognised : error.Recognised path ↔
    ((∃ kind problem, error.Contains kind ∧ kind.Tells path problem) →
      ∃ kind problem, error.Decides kind ∧ kind.Tells path problem)

/-- **The nearest I/O error decides.** A missing socket or a denied permission that stands anywhere
in an error is recognised exactly if the I/O error that decides tells of one. -/
theorem diagnosed_by_nearest (error : ClientError) (path : String) : error.Diagnosed path where
  decided := by
    rintro ⟨kind, contains⟩
    obtain ⟨decider, decides⟩ := contains.exists_decides
    exact ⟨decider, decides, fun _ => decides.unique⟩
  told _ tells := tells.reported
  untold := reported_of_untold
  recognised := recognised_iff

/-- A missing socket that a reset connection is the cause of is not recognised. -/
theorem not_recognised_reset :
    ¬(io ⟨.notFound, some "outer", [some .connectionReset]⟩).Recognised
      "/run/podman/podman.sock" := by
  rw [recognised_iff]
  intro recognised
  obtain ⟨kind, problem, decides, told⟩ := recognised ⟨.notFound, _, .own rfl, .missing⟩
  have nearest : Decides (io ⟨.notFound, some "outer", [some .connectionReset]⟩) .connectionReset :=
    @Decides.cause _ _ [] [] rfl nofun
  cases decides.unique nearest
  cases told

end ClientError

end Gangway
