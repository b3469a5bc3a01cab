import Gangway.Proofs.Identities.KeySet

/-!
# The public key of an identity

A sealed container shows its public key in clear, and its section is only read if it holds the secret
of that key. So two passphrases under which an identity loads give signers of the same public key
(`Signer.key_eq_of_load`), and so do all identities of a list (`Loads.map_key`).
-/

namespace Gangway.Ssh

open Gangway.Text (Bytes)
open Wire (Reader)

/-! ## What readers give -/

/-- Whatever the reader reads has the property. -/
def Wire.Gives {α : Type} (reader : Reader α) (property : α → Prop) : Prop :=
  ∀ ⦃bytes value rest⦄, reader.run bytes = some (value, rest) → property value

namespace Wire.Gives

variable {α β : Type} {property : α → Prop}

theorem pure {value : α} (holds : property value) : Gives (pure value) property := by
  rintro _ _ _ ⟨⟩
  exact holds

theorem failure : Gives failure property := nofun

theorem bind {reader : Reader β} {next : β → Reader α}
    (gives : ∀ value, Gives (next value) property) : Gives (reader >>= next) property := by
  intro bytes value rest read
  obtain ⟨⟨middle, behind⟩, -, read⟩ := Option.bind_eq_some_iff.1 read
  exact gives middle read

/-- A reader that fails on a condition gives what it gives otherwise. -/
theorem ite_failure {condition : Prop} [Decidable condition] {next : PUnit → Reader α}
    (gives : Gives (next ⟨⟩) property) :
    Gives (if condition then Alternative.failure >>= next else next ⟨⟩) property := by
  split
  · exact nofun
  · exact gives

end Wire.Gives

/-! ## Containers -/

namespace Container

variable {bytes : Bytes} {passphrase : Option String} {signer : Signer}

/-- A section is only read if it holds the secret of the key. -/
theorem readSection_gives (block : Nat) (key : PublicKey) :
    Wire.Gives (readSection block key) fun signer => signer.key = key := by
  unfold readSection
  refine .bind fun _ => .ite_failure ?_
  refine .bind fun _ => .bind fun _ => .ite_failure ?_
  refine .bind fun (found, secret) => .ite_failure ?_
  refine .bind fun comment => .bind fun count => .bind fun fill => ?_
  split
  · exact .pure rfl
  · exact .failure

theorem key_of_unseal? {kind : Kind} {derivation : Derivation} {key : PublicKey}
    {text tag phrase : Bytes} (unsealed : unseal? kind derivation key text tag phrase = some signer) :
    signer.key = key := by
  unfold unseal? at unsealed
  split at unsealed
  case h_2 => cases unsealed
  obtain ⟨material, -, unsealed⟩ := Option.bind_eq_some_iff.1 unsealed
  obtain ⟨clear, -, unsealed⟩ := Option.bind_eq_some_iff.1 unsealed
  split at unsealed
  case h_1 found read =>
    cases unsealed
    exact readSection_gives _ _ read
  case h_2 => cases unsealed

/-- The public key that a container shows. -/
def Content.key : Content → PublicKey
  | .clear signer => signer.key
  | .sealed _ _ key _ _ => key

theorem exists_content_of_signer (read : Container.signer bytes passphrase = .ok signer) :
    ∃ content, content? bytes = some content ∧ content.key = signer.key := by
  unfold Container.signer at read
  split at read
  case h_1 => cases read
  case h_2 found content =>
    cases read
    exact ⟨_, content, rfl⟩
  case h_3 content =>
    refine ⟨_, content, ?_⟩
    split at read
    case h_1 => cases read
    split at read
    case h_1 unsealed =>
      cases read
      exact (key_of_unseal? unsealed).symm
    case h_2 => cases read

end Container

/-! ## Texts and files -/

variable {signer signer' : Signer} {one other : Option String}

theorem Armour.key_eq_of_decode {format : Format} {bytes : Bytes}
    (read : decode format bytes one = .ok signer) (read' : decode format bytes other = .ok signer') :
    signer'.key = signer.key := by
  cases format with
  | container =>
    obtain ⟨content, shown, key⟩ := Container.exists_content_of_signer read
    obtain ⟨_, shown', key'⟩ := Container.exists_content_of_signer read'
    cases shown.symm.trans shown'
    exact key'.symm.trans key
  | general =>
    cases Except.ok.inj (read.symm.trans read')
    rfl
  | elliptic =>
    cases Except.ok.inj (read.symm.trans read')
    rfl
  | encrypted => cases read
  | unread => cases read

theorem Armour.key_eq_of_signer {text : List Char} (read : Armour.signer text one = .ok signer)
    (read' : Armour.signer text other = .ok signer') : signer'.key = signer.key := by
  unfold Armour.signer at read read'
  split at read
  case isTrue => cases read
  case isFalse own =>
    rw [if_neg own] at read'
    split at read
    case h_1 => cases read
    case h_2 found scanned =>
      rw [scanned] at read'
      dsimp only at read'
      split at read
      case h_1 grouped format =>
        rw [grouped, format] at read'
        exact key_eq_of_decode read read'
      case h_2 => cases read

namespace Signer

variable {files : Files} {path : String}

/-- What is loaded was read from the text of the file, under the passphrase or without. -/
theorem exists_decode_of_loadWith {decode : Decoder}
    (loaded : loadWith decode files path one = .ok signer) :
    ∃ text given, files.read path = .ok text ∧ decode text.toList given = .ok signer := by
  unfold loadWith decodeWith at loaded
  split at loaded
  case h_1 => cases loaded
  case h_2 text read =>
    split at loaded
    case h_1 found clear =>
      cases loaded
      exact ⟨text, none, read, clear⟩
    case h_2 => cases loaded
    case h_3 =>
      split at loaded
      case h_1 => cases loaded
      case h_2 phrase =>
        split at loaded
        case h_1 found opened =>
          cases loaded
          exact ⟨text, some phrase, read, opened⟩
        case h_2 => cases loaded

/-- The public key of an identity does not hang on the passphrase under which it is loaded. -/
theorem key_eq_of_load (loaded : load files path one = .ok signer)
    (loaded' : load files path other = .ok signer') : signer'.key = signer.key := by
  obtain ⟨text, _, read, decoded⟩ := exists_decode_of_loadWith loaded
  obtain ⟨_, _, read', decoded'⟩ := exists_decode_of_loadWith loaded'
  cases read.symm.trans read'
  exact Armour.key_eq_of_signer decoded decoded'

end Signer

theorem Loads.map_key {files : Files} {identities : List String} {signers signers' : List Signer}
    (loads : Loads files one identities signers) (loads' : Loads files other identities signers') :
    signers'.map (·.key) = signers.map (·.key) := by
  induction loads generalizing signers' with
  | nil =>
    cases loads'
    rfl
  | cons loaded _ ih =>
    cases loads' with
    | cons loaded' loads' =>
      rw [List.map_cons, List.map_cons, Signer.key_eq_of_load loaded loaded', ih loads']

end Gangway.Ssh
