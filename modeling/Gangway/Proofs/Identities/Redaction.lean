import Gangway.Proofs.Identities.PublicHalf
import Gangway.Proofs.Text.Quoted
import Gangway.Ssh.Params

/-!
# Diagnostics without secrets

The texts that parameters and methods have for diagnostics tell what is public of them and nothing
else: two texts are the same exactly if the two values `Agree` (`Params.debug_eq_iff`,
`AuthMethods.debug_eq_iff`). Of methods that were reached by loading and pushing keys, the text tells
the fingerprints that came in, each where it came first, and whether there was a password
(`Reached.debug_eq_iff`). A passphrase does not change which public keys are loaded, and so the text
does not hang on it (`AuthMethods.debug_resolve`).
-/

namespace Gangway.Ssh

open Gangway.Text
open AuthMethods (resolve pushKey password_push resolve_eq_ok_iff)

/-! ## Parameters -/

/-- The parameters agree in what is public: in the bastion, the socket, the user, the key's path and the
security switch, and in whether there is a passphrase and whether there is a password. -/
structure Params.Agree (params other : Params) : Prop where
  host : params.host = other.host
  path : params.path = other.path
  user : params.user = other.user
  keyPath : params.keyPath = other.keyPath
  passphrase : params.keyPassphrase.isSome = other.keyPassphrase.isSome
  secure : params.secure = other.secure
  password : params.password.isEmpty = other.password.isEmpty

theorem secure_delimits : Delimits fun secure : Bool => if secure then "true" else "false" :=
  delimits_ite (c := 't') (d := 'f') rfl rfl (by decide)

/-- The text of parameters tells what is public of them, and nothing else. -/
theorem Params.debug_eq_iff {params other : Params} :
    params.debug = other.debug ↔ params.Agree other := by
  unfold debug
  rw [openRecord_cons_iff quoted_delimits, openRecord_cons_iff quoted_delimits,
    openRecord_cons_iff quoted_delimits, openRecord_cons_iff quoted_delimits,
    openRecord_cons_iff redacted_delimits, openRecord_cons_iff secure_delimits,
    openRecord_cons_iff redacted_delimits, Bool.not_inj_iff]
  constructor
  · rintro ⟨host, path, user, keyPath, passphrase, secure, password, -⟩
    exact ⟨host, path, user, keyPath, passphrase, secure, password⟩
  · rintro ⟨host, path, user, keyPath, passphrase, secure, password⟩
    exact ⟨host, path, user, keyPath, passphrase, secure, password, rfl⟩

/-! ## Methods -/

/-- The methods agree in what is public: in the fingerprints of their keys, in order, and in whether
there is a password. -/
structure AuthMethods.Agree (methods other : AuthMethods) : Prop where
  fingerprints : methods.fingerprints = other.fingerprints
  password : methods.password.isSome = other.password.isSome

/-- The text of methods tells what is public of them, and nothing else. -/
theorem AuthMethods.debug_eq_iff {methods other : AuthMethods} :
    methods.debug = other.debug ↔ methods.Agree other := by
  unfold debug
  rw [record_cons_iff (bracketed_delimits quoted_delimits quoted_opens)
      (.inl (List.cons_ne_nil _ _)) (.inl (List.cons_ne_nil _ _)),
    record_singleton_iff redacted_delimits]
  constructor
  · exact fun ⟨fingerprints, password⟩ => ⟨fingerprints, password⟩
  · exact fun ⟨fingerprints, password⟩ => ⟨fingerprints, password⟩

/-! ## Methods that were reached -/

variable {files files' : Files} {passphrase passphrase' password password' : Option String}
  {given given' kept : List Signer} {methods other : AuthMethods} {identities : List String}

/-- The fingerprints of keys, each where it comes first. -/
def fingerprintsOnce (signers : List Signer) : List String :=
  (signers.map (·.key.fingerprint)).eraseDups

theorem eraseDups_concat (texts : List String) (text : String) :
    (texts ++ [text]).eraseDups =
      if text ∈ texts then texts.eraseDups else texts.eraseDups ++ [text] := by
  rw [List.eraseDups_append, List.cons_removeAll]
  by_cases seen : text ∈ texts
  · simp [seen]
  · simp [seen, List.eraseDups_cons]

/-- The keys that are kept have all fingerprints that came in, each once. -/
theorem Firsts.map_fingerprint (firsts : Firsts given kept) :
    kept.map (·.key.fingerprint) = fingerprintsOnce given := by
  induction firsts with
  | nil => rfl
  | @fresh given kept signer _ new ih =>
    have unseen : signer.key.fingerprint ∉ given.map (·.key.fingerprint) := by simpa using new
    rw [fingerprintsOnce, List.map_append, List.map_append, ih, List.map_singleton,
      eraseDups_concat, if_neg unseen, fingerprintsOnce]
  | @repeated given kept signer earlier _ seen same ih =>
    have met : signer.key.fingerprint ∈ given.map (·.key.fingerprint) :=
      List.mem_map.2 ⟨earlier, seen, same⟩
    rw [fingerprintsOnce, List.map_append, ih, List.map_singleton, eraseDups_concat, if_pos met,
      fingerprintsOnce]

theorem Reached.isSome_password (reached : Reached files passphrase password given methods) :
    methods.password.isSome = password.any (!·.isEmpty) := by
  rw [Bool.eq_iff_iff, Option.isSome_iff_exists]
  simp [reached.held.password, Option.any_eq_true]

/-- The text of methods that were reached tells the fingerprints that came in, each where it came
first, and whether there was a password, and nothing else of what came in. -/
theorem Reached.debug_eq_iff (reached : Reached files passphrase password given methods)
    (reached' : Reached files' passphrase' password' given' other) :
    methods.debug = other.debug ↔
      fingerprintsOnce given = fingerprintsOnce given' ∧
        password.any (!·.isEmpty) = password'.any (!·.isEmpty) := by
  rw [AuthMethods.debug_eq_iff, ← reached.held.firsts.map_fingerprint,
    ← reached'.held.firsts.map_fingerprint, ← reached.isSome_password, ← reached'.isSome_password]
  exact ⟨fun agree => ⟨agree.fingerprints, agree.password⟩, fun ⟨same, alike⟩ => ⟨same, alike⟩⟩

/-- Identities that load under two passphrases come to the same text, whatever the passwords, if there
is one in both or in none. -/
theorem AuthMethods.debug_resolve
    (resolved : resolve files identities passphrase password = .ok methods)
    (resolved' : resolve files identities passphrase' password' = .ok other)
    (alike : password.any (!·.isEmpty) = password'.any (!·.isEmpty)) :
    methods.debug = other.debug := by
  obtain ⟨signers, loads, -⟩ := resolve_eq_ok_iff.1 resolved
  obtain ⟨signers', loads', -⟩ := resolve_eq_ok_iff.1 resolved'
  have fingerprints : signers'.map (·.key.fingerprint) = signers.map (·.key.fingerprint) := by
    have keys := congrArg (List.map PublicKey.fingerprint) (loads.map_key loads')
    rwa [List.map_map, List.map_map] at keys
  refine ((Reached.resolved loads resolved).debug_eq_iff (.resolved loads' resolved')).2 ⟨?_, alike⟩
  rw [fingerprintsOnce, fingerprintsOnce, fingerprints]

/-- **Diagnostics tell no secret.** The texts of any two parameters are the same exactly if the
parameters agree in what is public, and so are those of any two sets of methods. For methods that
were reached by loading identities and pushing keys, that is to say: exactly if the same fingerprints
came in, going by the first time that each came, and there was a password in both or in none. -/
theorem diagnostics_tell_no_secret :
    (∀ params other : Params, params.debug = other.debug ↔ params.Agree other) ∧
    (∀ methods other : AuthMethods, methods.debug = other.debug ↔ methods.Agree other) ∧
    ∀ {files files' passphrase passphrase' password password' given given' methods other},
      Reached files passphrase password given methods →
      Reached files' passphrase' password' given' other →
      (methods.debug = other.debug ↔
        fingerprintsOnce given = fingerprintsOnce given' ∧
          password.any (!·.isEmpty) = password'.any (!·.isEmpty)) :=
  ⟨fun _ _ => Params.debug_eq_iff, fun _ _ => AuthMethods.debug_eq_iff, Reached.debug_eq_iff⟩

/-- A key under a secret and a comment. -/
def secretly (secret : UInt8) (comment : String) : Signer := ⟨.other "a@b" [7], [secret], comment⟩

/-- Methods with other passwords that hold a key under other secrets have the same text. -/
theorem diagnostics_tell_no_secret_pushed : ∃ methods other,
    Reached (Snapshot.files []) none (some "word") [secretly 1 "one"] methods ∧
      Reached (Snapshot.files []) (some "phrase") (some "another")
        [secretly 2 "two", secretly 3 "three"] other ∧
      methods.password ≠ other.password ∧ methods.debug = other.debug := by
  have resolved : resolve (Snapshot.files []) [] none (some "word") =
      .ok { password := some "word" } := by decide
  have resolved' : resolve (Snapshot.files []) [] (some "phrase") (some "another") =
      .ok { password := some "another" } := by decide
  have reached := (Reached.resolved .nil resolved).pushed (secretly 1 "one")
  have reached' :=
    ((Reached.resolved .nil resolved').pushed (secretly 2 "two")).pushed (secretly 3 "three")
  have once : fingerprintsOnce [secretly 1 "one"] =
      fingerprintsOnce [secretly 2 "two", secretly 3 "three"] := by
    simp [fingerprintsOnce, secretly, List.eraseDups_cons]
  refine ⟨_, _, reached, reached', ?_, ?_⟩
  · simp [pushKey, password_push]
  · exact (diagnostics_tell_no_secret.2.2 reached reached').2 ⟨once, by decide⟩

end Gangway.Ssh
