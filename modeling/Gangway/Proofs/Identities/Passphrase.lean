import Gangway.Proofs.Outcomes
import Gangway.Ssh.AuthMethods

/-!
# What a passphrase is good for

An identity is read without a passphrase first, and only if that shows an encrypted key is the
passphrase consulted. `Files.Sealed` and `Files.Unsealed` tell the two kinds of files apart without
a passphrase, `Signer.unlocks` says what a passphrase comes to with each, however texts are read,
and `AuthMethods.resolve_of_unsealed` that it comes to nothing where no identity is encrypted.
-/

namespace Gangway

open Ssh (KeyFault Signer)

variable {decode : Signer.Decoder} {files : Files} {path : String} {identities : List String}

/-- The file holds an encrypted key, going by how texts are read. -/
def Files.Sealed (files : Files) (decode : Signer.Decoder) (path : String) : Prop :=
  ∃ text, files.read path = .ok text ∧ decode text.toList none = .error .encrypted

/-- The file holds no encrypted key: it cannot be read, or it holds a key in clear, or something
else is wrong with it. -/
inductive Files.Unsealed (files : Files) (decode : Signer.Decoder) (path : String) : Prop where
  | unreadable {error : ReadError} (failed : files.read path = .error error)
  | clear {text : String} {signer : Signer} (read : files.read path = .ok text)
      (decoded : decode text.toList none = .ok signer)
  | broken {text : String} {fault : KeyFault} (read : files.read path = .ok text)
      (failed : decode text.toList none = .error fault) (other : fault ≠ .encrypted)

theorem Files.unsealed_iff : files.Unsealed decode path ↔ ¬files.Sealed decode path := by
  constructor
  · rintro unsealed ⟨text, read, encrypted⟩
    cases unsealed with
    | unreadable failed =>
      rw [read] at failed
      cases failed
    | clear read' decoded =>
      cases read.symm.trans read'
      rw [encrypted] at decoded
      cases decoded
    | broken read' failed other =>
      cases read.symm.trans read'
      cases encrypted.symm.trans failed
      exact other rfl
  · intro unsealed
    cases read : files.read path with
    | error error => exact .unreadable read
    | ok text =>
      cases decoded : decode text.toList none with
      | ok signer => exact .clear read decoded
      | error fault =>
        refine .broken read decoded ?_
        rintro rfl
        exact unsealed ⟨text, read, decoded⟩

namespace Ssh

namespace Signer

/-! ## Texts -/

theorem decodeWith_of_not_encrypted {text : List Char}
    (plain : decode text none ≠ .error .encrypted) (one other : Option String) :
    decodeWith decode path one text = decodeWith decode path other text := by
  unfold decodeWith
  split
  · rfl
  · rfl
  case h_3 encrypted => exact absurd encrypted plain

theorem decodeWith_of_encrypted {text : List Char}
    (encrypted : decode text none = .error .encrypted) (phrase : String) :
    decodeWith decode path (some phrase) text =
      (decode text (some phrase)).mapError fun fault => .identityParse path fault.message := by
  unfold decodeWith
  rw [encrypted]
  dsimp only
  cases decode text (some phrase) with
  | ok signer => rfl
  | error fault => rfl

/-- A passphrase is asked for exactly if the key is encrypted and none is given. -/
theorem decodeWith_eq_required_iff {text : List Char} {passphrase : Option String}
    {named : String} :
    decodeWith decode path passphrase text = .error (.identityPassphraseRequired named) ↔
      named = path ∧ decode text none = .error .encrypted ∧ passphrase = none := by
  constructor
  · intro required
    cases decoded : decode text none with
    | ok signer => simp [decodeWith, decoded] at required
    | error fault =>
      cases fault with
      | malformed => simp [decodeWith, decoded] at required
      | encrypted =>
        cases passphrase with
        | none =>
          simp only [decodeWith, decoded] at required
          cases required
          exact ⟨rfl, rfl, rfl⟩
        | some phrase =>
          rw [decodeWith_of_encrypted decoded] at required
          obtain ⟨fault, -, ⟨⟩⟩ := mapError_eq_error_iff.1 required
  · rintro ⟨rfl, encrypted, rfl⟩
    simp [decodeWith, encrypted]

/-! ## Identity files -/

theorem loadWith_of_read {text : String} (read : files.read path = .ok text)
    (passphrase : Option String) :
    loadWith decode files path passphrase = decodeWith decode path passphrase text.toList := by
  rw [loadWith, read]

theorem loadWith_of_unreadable {error : ReadError} (failed : files.read path = .error error)
    (passphrase : Option String) :
    loadWith decode files path passphrase =
      .error (.identityUnreadable path error.cause.message) := by
  rw [loadWith, failed]

theorem loadWith_of_unsealed (unsealed : files.Unsealed decode path) (one other : Option String) :
    loadWith decode files path one = loadWith decode files path other := by
  cases unsealed with
  | unreadable failed => rw [loadWith_of_unreadable failed, loadWith_of_unreadable failed]
  | clear read decoded =>
    rw [loadWith_of_read read, loadWith_of_read read]
    exact decodeWith_of_not_encrypted (by simp [decoded]) one other
  | broken read failed differs =>
    rw [loadWith_of_read read, loadWith_of_read read]
    exact decodeWith_of_not_encrypted (by simp [failed, differs]) one other

theorem loadWith_of_sealed {text : String} (read : files.read path = .ok text)
    (encrypted : decode text.toList none = .error .encrypted) (phrase : String) :
    loadWith decode files path (some phrase) =
      (decode text.toList (some phrase)).mapError fun fault =>
        .identityParse path fault.message := by
  rw [loadWith_of_read read, decodeWith_of_encrypted encrypted]

/-- What a passphrase comes to with the file at a path, going by how texts are read. -/
structure Unlocks (decode : Decoder) (files : Files) (path : String) : Prop where
  /-- Every file that holds no encrypted key is unreadable, in clear or broken. -/
  kinds : files.Unsealed decode path ↔ ¬files.Sealed decode path
  /-- It makes no difference to a file that holds no encrypted key. -/
  indifferent : files.Unsealed decode path →
    ∀ one other, loadWith decode files path one = loadWith decode files path other
  /-- It is asked for exactly if the key is encrypted and none is given. -/
  required : ∀ passphrase named,
    loadWith decode files path passphrase = .error (.identityPassphraseRequired named) ↔
      named = path ∧ files.Sealed decode path ∧ passphrase = none
  /-- An encrypted key is read with it, or is said not to be read. -/
  opened : files.Sealed decode path → ∀ phrase,
    (∃ signer, loadWith decode files path (some phrase) = .ok signer) ∨
      ∃ message, loadWith decode files path (some phrase) = .error (.identityParse path message)
  /-- The key is the one that the text holds under the passphrase. -/
  decoded : ∀ text, files.read path = .ok text → decode text.toList none = .error .encrypted →
    ∀ phrase signer, loadWith decode files path (some phrase) = .ok signer ↔
      decode text.toList (some phrase) = .ok signer

theorem unlocks (decode : Decoder) (files : Files) (path : String) :
    Unlocks decode files path where
  kinds := Files.unsealed_iff
  indifferent := loadWith_of_unsealed
  required passphrase named := by
    cases read : files.read path with
    | error error => simp [loadWith_of_unreadable read, Files.Sealed, read]
    | ok text => simp [loadWith_of_read read, decodeWith_eq_required_iff, Files.Sealed, read]
  opened := by
    rintro ⟨text, read, encrypted⟩ phrase
    rw [loadWith_of_sealed read encrypted]
    cases decode text.toList (some phrase) with
    | ok signer => exact .inl ⟨signer, rfl⟩
    | error fault => exact .inr ⟨fault.message, rfl⟩
  decoded text read encrypted phrase signer := by
    rw [loadWith_of_sealed read encrypted, mapError_eq_ok_iff]

end Signer

namespace AuthMethods

theorem pushAll_congr {load load' : String → Except SshError Signer} {methods : AuthMethods}
    (same : ∀ identity ∈ identities, load' identity = load identity) :
    pushAll load' methods identities = pushAll load methods identities := by
  induction identities generalizing methods with
  | nil => rfl
  | cons identity rest ih =>
    unfold pushAll
    rw [same identity List.mem_cons_self]
    split
    · rfl
    · exact ih fun later member => same later (List.mem_cons_of_mem _ member)

/-- Where no identity is encrypted, the methods are the same whatever the passphrase. -/
theorem resolve_of_unsealed
    (unsealed : ∀ identity ∈ identities, files.Unsealed Armour.signer identity)
    (one other password : Option String) :
    resolve files identities one password = resolve files identities other password := by
  have same : ∀ identity ∈ identities,
      Signer.load files identity one = Signer.load files identity other :=
    fun identity member => Signer.loadWith_of_unsealed (unsealed identity member) one other
  unfold resolve
  rw [pushAll_congr same]

end AuthMethods

end Ssh

end Gangway
