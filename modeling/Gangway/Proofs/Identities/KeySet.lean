import Mathlib.Data.List.Forall2
import Gangway.Files.Snapshot
import Gangway.Proofs.Outcomes
import Gangway.Ssh.AuthMethods

/-!
# The keys that are held

Keys come in from identity files and by being pushed. `Firsts` says which of all that came in are
held: the first of each fingerprint, in order. One push keeps to this (`Firsts.push`), and so does
every sequence of pushes. `keys_kept_once` says it of all methods that can be reached, and says what
the identities of two lists, one after the other, come to.
-/

namespace Gangway.Ssh

/-- Of the keys given, those are kept whose fingerprint none before them has, in order. -/
inductive Firsts : List Signer → List Signer → Prop where
  | nil : Firsts [] []
  | fresh {given kept : List Signer} {signer : Signer} (firsts : Firsts given kept)
      (new : ∀ earlier ∈ given, earlier.key.fingerprint ≠ signer.key.fingerprint) :
      Firsts (given ++ [signer]) (kept ++ [signer])
  | repeated {given kept : List Signer} {signer earlier : Signer} (firsts : Firsts given kept)
      (seen : earlier ∈ given) (same : earlier.key.fingerprint = signer.key.fingerprint) :
      Firsts (given ++ [signer]) kept

variable {files : Files} {passphrase password : Option String} {methods result : AuthMethods}
  {signer : Signer} {given kept signers : List Signer} {identities : List String} {error : SshError}

/-- No fingerprint is lost. -/
theorem Firsts.exists_fingerprint_iff (firsts : Firsts given kept) {fingerprint : String} :
    (∃ held ∈ kept, held.key.fingerprint = fingerprint) ↔
      ∃ earlier ∈ given, earlier.key.fingerprint = fingerprint := by
  induction firsts with
  | nil => rfl
  | fresh _ _ ih => simp only [List.mem_append, or_and_right, exists_or, ih]
  | @repeated given kept signer earlier _ seen same ih =>
    rw [ih]
    constructor
    · rintro ⟨other, member, alike⟩
      exact ⟨other, List.mem_append_left _ member, alike⟩
    · rintro ⟨other, member, alike⟩
      rcases List.mem_append.1 member with before | last
      · exact ⟨other, before, alike⟩
      · cases List.mem_singleton.1 last
        exact ⟨earlier, seen, same.trans alike⟩

/-- No fingerprint is kept twice. -/
theorem Firsts.pairwise (firsts : Firsts given kept) :
    kept.Pairwise fun one other => one.key.fingerprint ≠ other.key.fingerprint := by
  induction firsts with
  | nil => exact .nil
  | repeated _ _ _ ih => exact ih
  | @fresh given kept signer firsts new ih =>
    refine List.pairwise_append.2
      ⟨ih, List.pairwise_singleton _ _, fun held member last only => ?_⟩
    cases List.mem_singleton.1 only
    intro alike
    obtain ⟨earlier, seen, same⟩ := firsts.exists_fingerprint_iff.1 ⟨held, member, alike⟩
    exact new earlier seen same

namespace AuthMethods

/-! ## One push -/

theorem holds_iff :
    methods.holds signer = true ↔
      ∃ held ∈ methods.keys, held.key.fingerprint = signer.key.fingerprint := by
  simp [holds, fingerprints]

theorem push_of_holds (held : methods.holds signer = true) : methods.push signer = methods :=
  if_pos held

theorem push_of_not_holds (new : methods.holds signer = false) :
    methods.push signer = { methods with keys := methods.keys ++ [signer] } :=
  if_neg (by simp [new])

theorem password_push : (methods.push signer).password = methods.password := by
  cases held : methods.holds signer with
  | true => rw [push_of_holds held]
  | false => rw [push_of_not_holds held]

theorem password_foldl_push : (signers.foldl push methods).password = methods.password := by
  induction signers generalizing methods with
  | nil => rfl
  | cons signer rest ih => rw [List.foldl_cons, ih, password_push]

/-- Keys are pushed in the same way whatever the password. -/
theorem push_withPassword :
    { methods with password }.push signer = { methods.push signer with password } := by
  have same : { methods with password }.holds signer = methods.holds signer := rfl
  cases held : methods.holds signer with
  | true => rw [push_of_holds held, push_of_holds (same.trans held)]
  | false => rw [push_of_not_holds held, push_of_not_holds (same.trans held)]

theorem foldl_push_withPassword (methods : AuthMethods) :
    signers.foldl push { methods with password } =
      { signers.foldl push methods with password } := by
  induction signers generalizing methods with
  | nil => rfl
  | cons signer rest ih => rw [List.foldl_cons, List.foldl_cons, push_withPassword, ih]

end AuthMethods

open AuthMethods

/-- A push keeps to the first key of each fingerprint. -/
theorem Firsts.push (firsts : Firsts given methods.keys) (signer : Signer) :
    Firsts (given ++ [signer]) (methods.push signer).keys := by
  cases held : methods.holds signer with
  | true =>
    obtain ⟨earlier, seen, same⟩ := firsts.exists_fingerprint_iff.1 (holds_iff.1 held)
    rw [push_of_holds held]
    exact .repeated firsts seen same
  | false =>
    rw [push_of_not_holds held]
    refine .fresh firsts fun earlier seen same => ?_
    have again := holds_iff.2 (firsts.exists_fingerprint_iff.2 ⟨earlier, seen, same⟩)
    rw [held] at again
    cases again

theorem Firsts.foldl_push (firsts : Firsts given methods.keys) (signers : List Signer) :
    Firsts (given ++ signers) (signers.foldl AuthMethods.push methods).keys := by
  induction signers generalizing given methods with
  | nil => rwa [List.append_nil]
  | cons signer rest ih =>
    rw [List.foldl_cons, ← List.singleton_append, ← List.append_assoc]
    exact ih (firsts.push signer)

/-! ## Loading identities -/

/-- The identities hold these keys. -/
abbrev Loads (files : Files) (passphrase : Option String) : List String → List Signer → Prop :=
  List.Forall₂ fun identity signer => Signer.load files identity passphrase = .ok signer

/-- The error of the first identity that does not load. -/
def FailsFirst (files : Files) (passphrase : Option String) (identities : List String)
    (error : SshError) : Prop :=
  ∃ before identity after, identities = before ++ identity :: after ∧
    (∀ earlier ∈ before, ∃ signer, Signer.load files earlier passphrase = .ok signer) ∧
    Signer.load files identity passphrase = .error error

theorem Loads.unique {other : List Signer} (loads : Loads files passphrase identities signers)
    (again : Loads files passphrase identities other) : signers = other := by
  refine List.right_unique_forall₂' ?_ loads again
  intro identity one other loaded loaded'
  exact Except.ok.inj (loaded.symm.trans loaded')

theorem failsFirst_cons {identity : String} :
    FailsFirst files passphrase (identity :: identities) error ↔
      Signer.load files identity passphrase = .error error ∨
        (∃ signer, Signer.load files identity passphrase = .ok signer) ∧
          FailsFirst files passphrase identities error := by
  constructor
  · rintro ⟨before, failing, after, split, loads, failed⟩
    cases before with
    | nil =>
      cases split
      exact .inl failed
    | cons first before =>
      cases split
      exact .inr ⟨loads _ List.mem_cons_self, before, failing, after, rfl,
        fun earlier member => loads earlier (List.mem_cons_of_mem _ member), failed⟩
  · rintro (failed | ⟨loaded, before, failing, after, rfl, loads, failed⟩)
    · exact ⟨[], identity, identities, rfl, nofun, failed⟩
    · refine ⟨identity :: before, failing, after, rfl, fun earlier member => ?_, failed⟩
      rcases List.mem_cons.1 member with rfl | member
      · exact loaded
      · exact loads earlier member

namespace AuthMethods

theorem pushAll_eq_ok_iff :
    pushAll (Signer.load files · passphrase) methods identities = .ok result ↔
      ∃ signers, Loads files passphrase identities signers ∧
        signers.foldl push methods = result := by
  induction identities generalizing methods with
  | nil => simp [pushAll]
  | cons identity rest ih =>
    unfold pushAll
    cases loaded : Signer.load files identity passphrase with
    | error fault => simp [List.forall₂_cons_left_iff, loaded]
    | ok signer => simp [List.forall₂_cons_left_iff, loaded, ih]

theorem pushAll_eq_error_iff :
    pushAll (Signer.load files · passphrase) methods identities = .error error ↔
      FailsFirst files passphrase identities error := by
  induction identities generalizing methods with
  | nil => simp [pushAll, FailsFirst]
  | cons identity rest ih =>
    unfold pushAll
    cases loaded : Signer.load files identity passphrase with
    | error fault => simp [failsFirst_cons, loaded]
    | ok signer => simp [failsFirst_cons, loaded, ih]

theorem resolve_eq_ok_iff :
    resolve files identities passphrase password = .ok result ↔
      ∃ signers, Loads files passphrase identities signers ∧
        signers.foldl push { password := password.filter (!·.isEmpty) } = result := by
  have pushed (signers : List Signer) :
      signers.foldl push { password := password.filter (!·.isEmpty) } =
        { signers.foldl push {} with password := password.filter (!·.isEmpty) } :=
    foldl_push_withPassword {}
  unfold resolve
  simp only [bind_eq_ok_iff, pushAll_eq_ok_iff, pushed]
  constructor
  · rintro ⟨_, ⟨signers, loads, rfl⟩, ⟨⟩⟩
    exact ⟨signers, loads, rfl⟩
  · rintro ⟨signers, loads, rfl⟩
    exact ⟨_, ⟨signers, loads, rfl⟩, rfl⟩

theorem resolve_eq_error_iff :
    resolve files identities passphrase password = .error error ↔
      FailsFirst files passphrase identities error := by
  unfold resolve
  rw [bind_eq_error_iff, pushAll_eq_error_iff, or_iff_left]
  rintro ⟨_, _, ⟨⟩⟩

end AuthMethods

/-! ## All methods that can be reached -/

/-- Methods that come of identities with a password and of keys pushed after them. With them stand
all keys that were loaded or pushed, in order. -/
inductive Reached (files : Files) (passphrase password : Option String) :
    List Signer → AuthMethods → Prop where
  | resolved {identities : List String} {signers : List Signer} {methods : AuthMethods}
      (loads : Loads files passphrase identities signers)
      (resolved : resolve files identities passphrase password = .ok methods) :
      Reached files passphrase password signers methods
  | pushed {given : List Signer} {methods : AuthMethods}
      (reached : Reached files passphrase password given methods) (signer : Signer) :
      Reached files passphrase password (given ++ [signer]) (methods.pushKey signer).1

/-- What is held of the keys that came in, and of the password that was given. -/
structure Held (password : Option String) (given : List Signer) (methods : AuthMethods) : Prop where
  /-- No two keys have the same fingerprint. -/
  distinct : methods.keys.Pairwise fun one other => one.key.fingerprint ≠ other.key.fingerprint
  /-- The keys are all that came in, but for those whose fingerprint had been there. -/
  firsts : Firsts given methods.keys
  /-- The password is the one that was given, unless that is empty. -/
  password : ∀ text, methods.password = some text ↔ password = some text ∧ text ≠ ""

theorem Reached.held (reached : Reached files passphrase password given methods) :
    Held password given methods := by
  have kept : Firsts given methods.keys ∧
      methods.password = password.filter (!·.isEmpty) := by
    induction reached with
    | @resolved _ signers _ loads resolved =>
      obtain ⟨_, loads', rfl⟩ := resolve_eq_ok_iff.1 resolved
      cases loads.unique loads'
      have empty : Firsts [] ({ password := password.filter (!·.isEmpty) } : AuthMethods).keys :=
        .nil
      exact ⟨empty.foldl_push signers, password_foldl_push⟩
    | pushed _ signer ih => exact ⟨ih.1.push signer, password_push.trans ih.2⟩
  refine ⟨kept.1.pairwise, kept.1, fun text => ?_⟩
  rw [kept.2]
  simp [Option.filter_eq_some_iff]

/-- What pushing a key comes to. -/
structure Pushes (methods : AuthMethods) (signer : Signer) (result : AuthMethods × Bool) :
    Prop where
  /-- The key is said to be added exactly if the keys grow, and they grow by it at the end. -/
  grows : result.2 = true ↔ result.1.keys = methods.keys ++ [signer]
  longer : result.2 = true ↔ methods.keys.length < result.1.keys.length
  /-- Otherwise nothing changes. -/
  unchanged : result.2 = false → result.1 = methods
  /-- It is added exactly if no key is there with its fingerprint. -/
  new : result.2 = true ↔
    ∀ held ∈ methods.keys, held.key.fingerprint ≠ signer.key.fingerprint
  password : result.1.password = methods.password

theorem pushes_pushKey (methods : AuthMethods) (signer : Signer) :
    Pushes methods signer (methods.pushKey signer) := by
  have new : methods.holds signer = false ↔
      ∀ held ∈ methods.keys, held.key.fingerprint ≠ signer.key.fingerprint := by
    rw [← Bool.not_eq_true, holds_iff]
    simp
  unfold pushKey
  cases held : methods.holds signer with
  | true =>
    rw [push_of_holds held]
    exact ⟨by simp, by simp, fun _ => rfl, by simp [← new, held], rfl⟩
  | false =>
    rw [push_of_not_holds held]
    exact ⟨by simp, by simp, nofun, by simp [← new, held], rfl⟩

/-- What the identities of two lists, one after the other, come to. -/
structure Joins (files : Files) (passphrase password : Option String) (front back : List String) :
    Prop where
  /-- The first identity that does not load fails all. -/
  failed : ∀ error, resolve files (front ++ back) passphrase password = .error error ↔
    FailsFirst files passphrase (front ++ back) error
  /-- Otherwise the keys at the back are pushed to the methods of those in front. -/
  joined : ∀ methods, resolve files (front ++ back) passphrase password = .ok methods ↔
    ∃ first signers, resolve files front passphrase password = .ok first ∧
      Loads files passphrase back signers ∧
      signers.foldl (fun methods signer => (methods.pushKey signer).1) first = methods

theorem loads_append {front back : List String} :
    Loads files passphrase (front ++ back) signers ↔
      ∃ first last, Loads files passphrase front first ∧ Loads files passphrase back last ∧
        signers = first ++ last := by
  constructor
  · intro loads
    refine ⟨signers.take front.length, signers.drop front.length, ?_, ?_,
      (List.take_append_drop _ _).symm⟩
    · exact (List.forall₂_take_append _ _ _ loads.flip).flip
    · exact (List.forall₂_drop_append _ _ _ loads.flip).flip
  · rintro ⟨first, last, loads, loads', rfl⟩
    exact List.rel_append loads loads'

theorem joins (files : Files) (passphrase password : Option String) (front back : List String) :
    Joins files passphrase password front back := by
  refine ⟨fun error => resolve_eq_error_iff, fun methods => ?_⟩
  simp only [resolve_eq_ok_iff, loads_append]
  constructor
  · rintro ⟨_, ⟨first, last, loads, loads', rfl⟩, rfl⟩
    exact ⟨_, last, ⟨first, loads, rfl⟩, loads', List.foldl_append.symm⟩
  · rintro ⟨_, last, ⟨first, loads, rfl⟩, loads', rfl⟩
    exact ⟨_, ⟨first, last, loads, loads', rfl⟩, List.foldl_append⟩

/-- **The keys that are held.** Whatever is loaded and pushed, the first key of each fingerprint is
held, in order, and the password stays. A push adds its key at the end or changes nothing. Of the
identities of two lists the first that does not load fails all; otherwise the keys at the back are
pushed to the methods of those in front. -/
theorem keys_kept_once (files : Files) (passphrase password : Option String) :
    (∀ given methods, Reached files passphrase password given methods →
      Held password given methods) ∧
    (∀ methods signer, Pushes methods signer (methods.pushKey signer)) ∧
    ∀ front back, Joins files passphrase password front back :=
  ⟨fun _ _ reached => reached.held, pushes_pushKey, joins files passphrase password⟩

/-- A key under a comment. -/
def commented (comment : String) : Signer := ⟨.other "a@b" [7], [8], comment⟩

/-- A key that is pushed again under another comment is held once, as it came first. -/
theorem keys_kept_once_commented : ∃ methods,
    Reached (Snapshot.files []) none (some "word") [commented "one", commented "two"] methods ∧
      Held (some "word") [commented "one", commented "two"] methods ∧
      methods = { keys := [commented "one"], password := some "word" } := by
  let methods : AuthMethods := { keys := [commented "one"], password := some "word" }
  have resolved : resolve (Snapshot.files []) [] none (some "word") =
      .ok { password := some "word" } := by decide
  have reached : Reached _ _ _ _ _ :=
    ((Reached.resolved .nil resolved).pushed (commented "one")).pushed (commented "two")
  have again : methods.holds (commented "two") = true :=
    holds_iff.2 ⟨commented "one", List.mem_singleton_self _, rfl⟩
  have held : Held _ _ _ := (keys_kept_once _ _ _).1 _ _ reached
  exact ⟨_, reached, held, push_of_holds again⟩

end Gangway.Ssh
