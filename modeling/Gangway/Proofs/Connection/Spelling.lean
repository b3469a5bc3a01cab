import Gangway.Files.Snapshot
import Gangway.Proofs.Connection.Schemes
import Gangway.Proofs.Engine.Diagnosis

/-!
# Which addresses are dialled

A client is set up for a unix address, and for an absolute path as for the unix address of that
path. What stands in front of the first `://` of any other address counts as its scheme, even if it
is the front of an absolute path: such a path is refused, though its unix address is not
(`Client.connect_takes`).
-/

namespace Gangway

variable {files : Files} {address path reason : String}

theorem Path.isAbsolute_iff : Path.isAbsolute path = true ↔ "/".toList <+: path.toList := by
  unfold Path.isAbsolute
  rw [decide_eq_true_iff]
  cases path.toList with
  | nil => simp
  | cons c rest => simp [eq_comm]

/-- Why an address is refused before anything is looked for. -/
inductive Refused (address : String) : String → Prop where
  | scheme {scheme rest : List Char} (unmarked : ¬"unix://".toList <+: address.toList)
      (cut : address.toList = scheme ++ "://".toList ++ rest)
      (first : ¬"://".toList <:+: scheme ++ ":/".toList) :
      Refused address s!"'{String.ofList scheme}' addresses cannot be dialled directly"
  | relative (uncut : ¬"://".toList <:+: address.toList)
      (relative : ¬"/".toList <+: address.toList) :
      Refused address "expected a unix:// address or an absolute socket path"

theorem isPrefix_unixMark_append (path : String) :
    "unix://".toList <+: (unixMark ++ path).toList := by
  rw [String.toList_append]
  exact List.prefix_append _ _

/-- A unix address has the mark behind a scheme in it. -/
theorem isInfix_of_unixMark (marked : "unix://".toList <+: address.toList) :
    "://".toList <:+: address.toList := by
  have inside : "://".toList <:+: "unix://".toList := ⟨"unix".toList, [], rfl⟩
  exact inside.trans marked.isInfix

theorem splitOnce_schemeMark_iff {text before after : List Char} :
    Text.splitOnce Transport.schemeMark text = some (before, after) ↔
      text = before ++ "://".toList ++ after ∧ ¬"://".toList <:+: before ++ ":/".toList := by
  have mark : "://".toList = Transport.schemeMark := rfl
  have front : ":/".toList = Transport.schemeMark.dropLast := rfl
  rw [mark, front]
  exact Text.splitOnce_eq_some_iff (List.cons_ne_nil _ _)

theorem splitOnce_schemeMark_eq_none_iff {text : List Char} :
    Text.splitOnce Transport.schemeMark text = none ↔ ¬"://".toList <:+: text :=
  Text.splitOnce_eq_none_iff

/-- An absolute path is no unix address. -/
theorem not_unixMark_of_absolute (absolute : "/".toList <+: address.toList) :
    ¬"unix://".toList <+: address.toList := by
  obtain ⟨rest, path⟩ := absolute
  rintro ⟨rest', marked⟩
  cases path.trans marked.symm

/-- What is dialled at an address that is no unix address. -/
theorem dialable_of_unmarked (unmarked : ¬"unix://".toList <+: address.toList) :
    dialable address =
      match Text.splitOnce Transport.schemeMark address.toList with
      | some (scheme, _) => .error (.unsupportedScheme address
          s!"'{String.ofList scheme}' addresses cannot be dialled directly")
      | none =>
        if Path.isAbsolute address then .ok (unixMark ++ address)
        else .error (.unsupportedScheme address
          "expected a unix:// address or an absolute socket path") := by
  have pathless : unixPath? address = none := unixPath?_eq_none_iff.2 unmarked
  unfold dialable
  rw [pathless]
  rfl

/-- An absolute path is dialled at its unix address, unless it looks as if it had a scheme. -/
theorem dialable_of_bare (absolute : "/".toList <+: path.toList)
    (bare : ¬"://".toList <:+: path.toList) : dialable path = .ok (unixMark ++ path) := by
  rw [dialable_of_unmarked (mt isInfix_of_unixMark bare), splitOnce_schemeMark_eq_none_iff.2 bare]
  exact if_pos (Path.isAbsolute_iff.2 absolute)

/-- What is dialled is a unix address. -/
theorem exists_path_of_dialable {uri : String} (dialled : dialable address = .ok uri) :
    ∃ path, uri = unixMark ++ path := by
  by_cases marked : "unix://".toList <+: address.toList
  · rw [dialable_of_isPrefix marked] at dialled
    cases dialled
    obtain ⟨rest, cut⟩ := marked
    refine ⟨String.ofList rest, String.toList_injective ?_⟩
    rw [String.toList_append, String.toList_ofList, ← cut]
    rfl
  · rw [dialable_of_unmarked marked] at dialled
    split at dialled
    · cases dialled
    · split at dialled
      · cases dialled
        exact ⟨address, rfl⟩
      · cases dialled

/-- An address is refused for such a reason, and for no other. -/
theorem dialable_eq_error_iff {error : EngineError} :
    dialable address = .error error ↔
      ∃ reason, Refused address reason ∧ error = .unsupportedScheme address reason := by
  constructor
  · intro refused
    have unmarked : ¬"unix://".toList <+: address.toList := by
      intro marked
      rw [dialable_of_isPrefix marked] at refused
      cases refused
    rw [dialable_of_unmarked unmarked] at refused
    split at refused
    case h_1 scheme rest split =>
      cases refused
      obtain ⟨cut, first⟩ := splitOnce_schemeMark_iff.1 split
      exact ⟨_, .scheme unmarked cut first, rfl⟩
    case h_2 uncut =>
      split at refused
      case isTrue => cases refused
      case isFalse relative =>
        cases refused
        exact ⟨_, .relative (splitOnce_schemeMark_eq_none_iff.1 uncut)
          (mt Path.isAbsolute_iff.2 relative), rfl⟩
  · rintro ⟨_, why, rfl⟩
    cases why with
    | scheme unmarked cut first =>
      rw [dialable_of_unmarked unmarked, splitOnce_schemeMark_iff.2 ⟨cut, first⟩]
    | relative uncut relative =>
      rw [dialable_of_unmarked (mt isInfix_of_unixMark uncut),
        splitOnce_schemeMark_eq_none_iff.2 uncut]
      exact if_neg (mt Path.isAbsolute_iff.1 relative)

/-- An address is refused unless it is a unix address or an absolute path without a mark in it. -/
theorem exists_refused_iff :
    (∃ reason, Refused address reason) ↔ ¬"unix://".toList <+: address.toList ∧
      ("/".toList <+: address.toList → "://".toList <:+: address.toList) := by
  constructor
  · rintro ⟨reason, why⟩
    cases why with
    | scheme unmarked cut first => exact ⟨unmarked, fun _ => ⟨_, _, cut.symm⟩⟩
    | relative uncut relative =>
      exact ⟨mt isInfix_of_unixMark uncut, fun absolute => absurd absolute relative⟩
  · rintro ⟨unmarked, marked⟩
    cases split : Text.splitOnce Transport.schemeMark address.toList with
    | some parts =>
      obtain ⟨cut, first⟩ := splitOnce_schemeMark_iff.1 split
      exact ⟨_, .scheme unmarked cut first⟩
    | none =>
      have uncut := splitOnce_schemeMark_eq_none_iff.1 split
      exact ⟨_, .relative uncut (mt marked uncut)⟩

namespace Client

/-- What setting up a client comes to where something is dialled. -/
theorem connect_of_dialable {uri : String} (dialled : dialable address = .ok uri) :
    connect files address =
      if files.present (afterMarks uri) && files.present ((unixPath? uri).getD "")
      then .ok ⟨(unixPath? uri).getD ""⟩
      else .error ((ClientError.socketMissing ((unixPath? uri).getD "")).whenConnecting uri) := by
  unfold connect
  rw [dialled]
  rfl

/-- A client for a unix address speaks to the socket at its path, which has to be there. -/
theorem connect_unixMark_append :
    connect files (unixMark ++ path) =
      if files.present (afterMarks (unixMark ++ path)) && files.present path then .ok ⟨path⟩
      else .error (.socketNotFound path) := by
  have missing : ClientError.Tells (.socketMissing path) path (.socketNotFound path) :=
    .missing rfl rfl
  rw [connect_of_dialable (dialable_of_isPrefix (isPrefix_unixMark_append path)),
    unixPath?_unixMark_append, Option.getD_some, missing.reported.1]

/-- An address is as good as the unix address that is dialled for it. -/
theorem connect_eq_of_dialable {uri : String} (dialled : dialable address = .ok uri) :
    connect files address = connect files uri := by
  obtain ⟨path, rfl⟩ := exists_path_of_dialable dialled
  rw [connect_of_dialable dialled,
    connect_of_dialable (dialable_of_isPrefix (isPrefix_unixMark_append path))]

/-- A bare path stands for its unix address. -/
theorem connect_of_bare (absolute : "/".toList <+: path.toList)
    (bare : ¬"://".toList <:+: path.toList) :
    connect files path = connect files (unixMark ++ path) :=
  connect_eq_of_dialable (dialable_of_bare absolute bare)

/-- A unix address is not refused. -/
theorem connect_unixMark_append_ne {other : String} :
    connect files (unixMark ++ path) ≠ .error (.unsupportedScheme other reason) := by
  rw [connect_unixMark_append]
  split
  · nofun
  · nofun

/-- Setting up a client fails for the scheme exactly if the address is refused. -/
theorem connect_eq_unsupported_iff {other : String} :
    connect files address = .error (.unsupportedScheme other reason) ↔
      other = address ∧ Refused address reason := by
  constructor
  · intro failed
    cases dialled : dialable address with
    | error refusal =>
      obtain ⟨_, why, rfl⟩ := dialable_eq_error_iff.1 dialled
      unfold connect at failed
      rw [dialled] at failed
      cases failed
      exact ⟨rfl, why⟩
    | ok uri =>
      obtain ⟨path, rfl⟩ := exists_path_of_dialable dialled
      rw [connect_eq_of_dialable dialled] at failed
      exact absurd failed connect_unixMark_append_ne
  · rintro ⟨rfl, why⟩
    unfold connect
    rw [dialable_eq_error_iff.2 ⟨reason, why, rfl⟩]
    rfl

/-- An address is refused exactly if it is neither a unix address nor an absolute path, and an
absolute path is as good as its unix address. -/
structure TakesPaths (files : Files) (address : String) : Prop where
  refuses : (∃ other reason, connect files address = .error (.unsupportedScheme other reason)) ↔
    ¬"unix://".toList <+: address.toList ∧ ¬"/".toList <+: address.toList
  verbatim : ∀ other reason, connect files address = .error (.unsupportedScheme other reason) →
    other = address
  alike : "/".toList <+: address.toList →
    connect files address = connect files (unixMark ++ address)

/-- An absolute path is as good as its unix address exactly if no mark stands in it. -/
theorem connect_alike_iff (absolute : "/".toList <+: address.toList) :
    connect files address = connect files (unixMark ++ address) ↔
      ¬"://".toList <:+: address.toList := by
  refine ⟨fun alike marked => ?_, connect_of_bare absolute⟩
  obtain ⟨reason, why⟩ := exists_refused_iff.2 ⟨not_unixMark_of_absolute absolute, fun _ => marked⟩
  have refused : connect files address = .error (.unsupportedScheme address reason) :=
    connect_eq_unsupported_iff.2 ⟨rfl, why⟩
  exact connect_unixMark_append_ne (alike.symm.trans refused)

theorem takesPaths_iff :
    TakesPaths files address ↔
      ¬("/".toList <+: address.toList ∧ "://".toList <:+: address.toList) := by
  constructor
  · rintro takes ⟨absolute, marked⟩
    exact (connect_alike_iff absolute).1 (takes.alike absolute) marked
  · intro plain
    have bare (absolute : "/".toList <+: address.toList) : ¬"://".toList <:+: address.toList :=
      fun marked => plain ⟨absolute, marked⟩
    refine ⟨?_, fun other reason failed => (connect_eq_unsupported_iff.1 failed).1,
      fun absolute => connect_of_bare absolute (bare absolute)⟩
    simp only [connect_eq_unsupported_iff, exists_and_left, exists_eq_left, exists_refused_iff]
    exact and_congr_right fun _ =>
      ⟨fun marked absolute => bare absolute (marked absolute),
        fun relative absolute => absurd absolute relative⟩

/-- How addresses are taken. -/
structure Takes (files : Files) (address : String) : Prop where
  /-- An address is refused for what stands in front of its first mark, or for being relative. -/
  refuses : ∀ other reason, connect files address = .error (.unsupportedScheme other reason) ↔
    other = address ∧ Refused address reason
  /-- So a unix address is taken, and an absolute path without a mark. -/
  refused : (∃ reason, Refused address reason) ↔ ¬"unix://".toList <+: address.toList ∧
    ("/".toList <+: address.toList → "://".toList <:+: address.toList)
  /-- An absolute path is as good as its unix address exactly if no mark stands in it. -/
  alike : "/".toList <+: address.toList →
    (connect files address = connect files (unixMark ++ address) ↔
      ¬"://".toList <:+: address.toList)
  /-- A unix address gives a client for the socket at its path, or a missing socket. -/
  dialled : connect files (unixMark ++ address) =
    if files.present (afterMarks (unixMark ++ address)) && files.present address then .ok ⟨address⟩
    else .error (.socketNotFound address)
  /-- Paths with a mark in them are the only ones that are not taken for what they are. -/
  takesPaths : TakesPaths files address ↔
    ¬("/".toList <+: address.toList ∧ "://".toList <:+: address.toList)

/-- **Which addresses are taken.** An address is refused for its scheme unless it is a unix address
or an absolute path without a mark in it; such a path is as good as its unix address, and all others
that begin at the root are not. -/
theorem connect_takes (files : Files) (address : String) : Takes files address where
  refuses _ _ := connect_eq_unsupported_iff
  refused := exists_refused_iff
  alike := connect_alike_iff
  dialled := connect_unixMark_append
  takesPaths := takesPaths_iff

/-- A socket in a directory whose name ends in a colon is there, and refused by its path. -/
theorem not_takesPaths_colon :
    ¬TakesPaths (Snapshot.files [⟨"/a://s", true, .error (.file .noDevice)⟩]) "/a://s" := by
  rw [takesPaths_iff, not_not]
  exact ⟨⟨"a://s".toList, rfl⟩, ⟨"/a".toList, "s".toList, rfl⟩⟩

end Client

end Gangway
