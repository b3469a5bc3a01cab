import Gangway.Files.Snapshot
import Gangway.Proofs.Trust.Store
import Gangway.Ssh.HostKeyPolicy

/-!
# How a host key is judged, from the lines of the trust store

Which policy a connection gets depends on the switch of the destination, on whether the trust store
can be read, and on the keys that its lines vouch for (`forConnection_by_lines`). The order of the
lines and their repetitions do not matter, since only membership among these keys is asked for.
-/

namespace Gangway.Ssh

/-- The text that a trust store is read from; where no path is given, or where nothing is at the
path, it is empty. -/
inductive StoreText (files : Files) : Option String → String → Prop where
  | unnamed : StoreText files none ""
  | missing {path : String} {error : ReadError} (failed : files.read path = .error error)
      (absent : error.cause = .notFound) : StoreText files (some path) ""
  | read {path content : String} (done : files.read path = .ok content) :
      StoreText files (some path) content

namespace HostKeyPolicy

/-- What becomes of a presented key: it is accepted or refused, or the connection is declined
before any key is seen. -/
def judge (files : Files) (params : Params) (knownHosts : Option String) (strict : Bool)
    (presented : PublicKey) : Except SshError Bool :=
  (forConnection files params knownHosts strict).map (·.accepts presented)

theorem accepts_pinned {keys : List PublicKey} {key : PublicKey} :
    (pinned keys).accepts key = true ↔ key ∈ keys :=
  List.contains_iff_mem

theorem storeOf_of_text {files : Files} {knownHosts : Option String} {content : String}
    (text : StoreText files knownHosts content) :
    storeOf files knownHosts = .ok (TrustStore.parse content) := by
  cases text with
  | unnamed => rfl
  | missing failed absent =>
    rw [storeOf, TrustStore.load, failed]
    exact if_pos absent
  | read done => rw [storeOf, TrustStore.load, done]

theorem storeOf_unreadable {files : Files} {path : String} {error : ReadError}
    (failed : files.read path = .error error) (present : error.cause ≠ .notFound) :
    storeOf files (some path) = .error (.trustStoreUnreadable path error.cause.message) := by
  rw [storeOf, TrustStore.load, failed]
  exact if_neg present

section

variable {files : Files} {params : Params} {knownHosts : Option String}

/-- Without the check, not even the store is looked at. -/
theorem forConnection_insecure (insecure : params.secure = false) (strict : Bool) :
    forConnection files params knownHosts strict = .ok .acceptAny := by
  rw [forConnection, insecure]
  rfl

theorem forConnection_unreadable {path : String} {error : ReadError} (secure : params.secure = true)
    (failed : files.read path = .error error) (present : error.cause ≠ .notFound) (strict : Bool) :
    forConnection files params (some path) strict =
      .error (.trustStoreUnreadable path error.cause.message) := by
  rw [forConnection, secure, storeOf_unreadable failed present]
  rfl

theorem forConnection_pinned {content : String} (secure : params.secure = true)
    (text : StoreText files knownHosts content)
    (known : (TrustStore.parse content).keysFor params.hostname params.port ≠ []) (strict : Bool) :
    forConnection files params knownHosts strict =
      .ok (.pinned ((TrustStore.parse content).keysFor params.hostname params.port)) := by
  simp only [forConnection, secure, storeOf_of_text text]
  cases keys : (TrustStore.parse content).keysFor params.hostname params.port with
  | nil => exact absurd keys known
  | cons key rest => rfl

theorem forConnection_unknown {content : String} (secure : params.secure = true)
    (text : StoreText files knownHosts content)
    (unknown : (TrustStore.parse content).keysFor params.hostname params.port = [])
    (strict : Bool) :
    forConnection files params knownHosts strict =
      if strict then .error (.hostKeyUnknown params.host) else .ok .acceptAny := by
  simp only [forConnection, secure, storeOf_of_text text, unknown]
  rfl

/-- A key is judged alike over two texts with the same lines. -/
theorem judge_congr_lines {files' : Files} {knownHosts' : Option String} {content content' : String}
    (text : StoreText files knownHosts content) (text' : StoreText files' knownHosts' content')
    (same : ∀ line, line ∈ Text.lines content.toList ↔ line ∈ Text.lines content'.toList)
    (strict : Bool) (presented : PublicKey) :
    judge files params knownHosts strict presented =
      judge files' params knownHosts' strict presented := by
  have vouched := Vouches.congr_lines same (lookupName params.hostname params.port)
  unfold judge
  cases secure : params.secure with
  | false => rw [forConnection_insecure secure, forConnection_insecure secure]
  | true =>
    -- Either both texts vouch for some key or neither does, so the policies are of one kind.
    have empty : (TrustStore.parse content).keysFor params.hostname params.port = [] ↔
        (TrustStore.parse content').keysFor params.hostname params.port = [] := by
      simp only [TrustStore.keysFor_parse_eq_nil_iff, vouched]
    by_cases unknown : (TrustStore.parse content).keysFor params.hostname params.port = []
    · rw [forConnection_unknown secure text unknown,
        forConnection_unknown secure text' (empty.1 unknown)]
    · rw [forConnection_pinned secure text unknown,
        forConnection_pinned secure text' (mt empty.2 unknown)]
      simp only [Except.map]
      congr 1
      rw [Bool.eq_iff_iff, accepts_pinned, accepts_pinned, TrustStore.mem_keysFor_parse,
        TrustStore.mem_keysFor_parse]
      exact vouched presented

end

/-- **The decision about a host key.** A destination that is not secure accepts any key, whatever
the store; a store that is there but cannot be read is an error; otherwise the keys that lines vouch
for are pinned, and strictness only tells what happens when there are none. -/
theorem forConnection_by_lines (files : Files) (params : Params) (knownHosts : Option String) :
    (params.secure = false → ∀ strict,
      forConnection files params knownHosts strict = .ok .acceptAny) ∧
    (params.secure = true → ∀ path error, knownHosts = some path →
      files.read path = .error error → error.cause ≠ .notFound → ∀ strict,
        forConnection files params knownHosts strict =
          .error (.trustStoreUnreadable path error.cause.message)) ∧
    (params.secure = true → ∀ content, StoreText files knownHosts content →
      ((∃ key, Vouches content (lookupName params.hostname params.port) key) →
        ∃ keys, (∀ strict, forConnection files params knownHosts strict = .ok (.pinned keys)) ∧
          ∀ key, (pinned keys).accepts key = true ↔
            Vouches content (lookupName params.hostname params.port) key) ∧
      ((∀ key, ¬ Vouches content (lookupName params.hostname params.port) key) →
        forConnection files params knownHosts true = .error (.hostKeyUnknown params.host) ∧
        forConnection files params knownHosts false = .ok .acceptAny)) ∧
    (∀ files' content content', StoreText files knownHosts content →
      StoreText files' knownHosts content' →
      (∀ line, line ∈ Text.lines content.toList ↔ line ∈ Text.lines content'.toList) →
      ∀ strict presented, judge files params knownHosts strict presented =
        judge files' params knownHosts strict presented) := by
  refine ⟨fun insecure strict => forConnection_insecure insecure strict, ?_, ?_, ?_⟩
  · rintro secure path error rfl failed present strict
    exact forConnection_unreadable secure failed present strict
  · intro secure content text
    constructor
    · rintro ⟨key, voucher⟩
      have known : (TrustStore.parse content).keysFor params.hostname params.port ≠ [] :=
        List.ne_nil_of_mem (TrustStore.mem_keysFor_parse.2 voucher)
      refine ⟨_, forConnection_pinned secure text known, fun key => ?_⟩
      rw [accepts_pinned, TrustStore.mem_keysFor_parse]
    · intro none
      have unknown := TrustStore.keysFor_parse_eq_nil_iff.2 none
      exact ⟨forConnection_unknown secure text unknown true,
        forConnection_unknown secure text unknown false⟩
  · intro files' content content' text text' same strict presented
    exact judge_congr_lines text text' same strict presented

/-- Parameters of a bastion that listens on the standard port. -/
def bastionParams (secure : Bool) : Params where
  host := "bastion:22"
  hostname := "Bastion"
  port := 22
  path := "/run/podman/podman.sock"
  user := "core"
  keyPath := "id"
  keyPassphrase := none
  secure
  password := ""

/-- A malformed line, an entry that excludes the bastion, and one that holds a key for it. -/
def bastionStore : String :=
  "broken\n*,!bastion a@b AAAAA2FAYgAAAAA=\nBASTION a@b AAAAA2FAYgAAAAEH\n"

/-- The lines of `bastionStore` in another order, one of them twice. -/
def bastionStoreAgain : String :=
  "BASTION a@b AAAAA2FAYgAAAAEH\nbroken\nbroken\n*,!bastion a@b AAAAA2FAYgAAAAA="

theorem vouches_bastionStore : Vouches bastionStore "bastion" (.other "a@b" [7]) :=
  ⟨"BASTION a@b AAAAA2FAYgAAAAEH".toList, by decide +kernel,
    ⟨[.name "bastion" false], .other "a@b" [7]⟩,
    HostKeyEntry.ofLine?_eq_some_iff.1 (by decide +kernel), by decide +kernel, rfl⟩

/-- A file system that was looked at in one place, a trust store. -/
def storeFiles (content : Except ReadError String) : Files :=
  Snapshot.files [⟨"store", true, content⟩]

theorem forConnection_by_lines_bastion :
    forConnection (storeFiles (.error (.file .denied))) (bastionParams false) (some "store") true =
      .ok .acceptAny ∧
    forConnection (storeFiles (.error (.file .denied))) (bastionParams true) (some "store") true =
      .error (.trustStoreUnreadable "store" OsError.denied.message) ∧
    (∃ keys, (∀ strict, forConnection (storeFiles (.ok bastionStore)) (bastionParams true)
        (some "store") strict = .ok (.pinned keys)) ∧
      (pinned keys).accepts (.other "a@b" [7]) = true) ∧
    forConnection (storeFiles (.error (.file .notFound))) (bastionParams true) (some "store") true =
      .error (.hostKeyUnknown "bastion:22") ∧
    judge (storeFiles (.ok bastionStore)) (bastionParams true) (some "store") true
        (.other "a@b" []) =
      judge (storeFiles (.ok bastionStoreAgain)) (bastionParams true) (some "store") true
        (.other "a@b" []) := by
  have seen (content : Except ReadError String) : (storeFiles content).read "store" = content :=
    Snapshot.read_files_single "store" true content
  refine ⟨(forConnection_by_lines _ _ _).1 rfl true,
    (forConnection_by_lines _ _ _).2.1 rfl "store" _ rfl (seen _) (by decide) true, ?_, ?_, ?_⟩
  · obtain ⟨keys, pins, accepts⟩ :=
      ((forConnection_by_lines _ (bastionParams true) _).2.2.1 rfl _ (.read (seen _))).1
        ⟨_, vouches_bastionStore⟩
    exact ⟨keys, pins, (accepts _).2 vouches_bastionStore⟩
  · have missing := StoreText.missing (seen (.error (.file .notFound))) rfl
    exact (((forConnection_by_lines _ (bastionParams true) _).2.2.1 rfl _ missing).2
      fun key ⟨_, present, _⟩ => absurd present List.not_mem_nil).1
  · have lines : Text.lines bastionStore.toList =
        ["broken".toList, "*,!bastion a@b AAAAA2FAYgAAAAA=".toList,
          "BASTION a@b AAAAA2FAYgAAAAEH".toList] := by decide +kernel
    have again : Text.lines bastionStoreAgain.toList =
        ["BASTION a@b AAAAA2FAYgAAAAEH".toList, "broken".toList, "broken".toList,
          "*,!bastion a@b AAAAA2FAYgAAAAA=".toList] := by decide +kernel
    refine (forConnection_by_lines _ _ _).2.2.2 _ _ _ (.read (seen _)) (.read (seen _))
      (fun line => ?_) _ _
    rw [lines, again]
    grind

end HostKeyPolicy

end Gangway.Ssh
