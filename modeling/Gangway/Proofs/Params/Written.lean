import Gangway.Proofs.Uri.Authority
import Gangway.Ssh.Params

/-!
# Parameters of a URI that is written out

An ssh URI is written from a user, a host, a port and a path. The parameters that it gives are these
parts (`ofUri_written`), except that an empty user is the local account.
-/

namespace Gangway.Ssh.Params

open Uri (Host HostText PortText isUnreserved isUnreservedOrSlash percentEncode)

/-- The characters that names of users, hosts and files are commonly made of. -/
def isNameChar (c : Char) : Bool := c.isAlphanum || c = '-' || c = '_' || c = '.'

theorem isUnreserved_of_isNameChar {c : Char} (name : isNameChar c = true) :
    isUnreserved c = true := by
  simp only [isNameChar, Bool.or_eq_true, decide_eq_true_eq] at name
  rcases name with ((word | rfl) | rfl) | rfl
  · simp [isUnreserved, word]
  · rfl
  · rfl
  · rfl

/-- A host in front of a port, with the name that it stands for: a name is written as it is, and an
address in brackets. -/
inductive WrittenHost : String → String → Prop where
  | name {name : String} (filled : name ≠ "") (plain : ∀ c ∈ name.toList, isNameChar c = true) :
      WrittenHost name name
  | address {address : Uri.Ipv6} (valid : address.Valid) :
      WrittenHost ("[" ++ address.text ++ "]") address.text

/-- A port behind a host, with its number. Left out or empty it is the port of SSH. -/
inductive WrittenPort : String → UInt16 → Prop where
  | number (port : UInt16) : WrittenPort (":" ++ toString port.toNat) port
  | colon : WrittenPort ":" 22
  | none : WrittenPort "" 22

/-- The path begins at the root, and none of its segments is made of dots. -/
structure AbsolutePath (path : String) : Prop where
  root : path.toList.head? = some '/'
  plain : ∀ segment ∈ path.toList.splitOn '/', segment ≠ ['.'] ∧ segment ≠ ['.', '.']

theorem WrittenHost.exists_hostText {written hostname : String}
    (host : WrittenHost written hostname) :
    ∃ read, HostText written.toList read ∧ hostTexts read = (hostname, written) := by
  cases host with
  | name filled plain =>
    refine ⟨.name (String.ofList written.toList), .name ?_ fun c member => ?_, ?_⟩
    · exact fun empty => filled (String.toList_eq_nil_iff.1 empty)
    · exact isUnreserved_of_isNameChar (plain c member)
    · rw [String.ofList_toList]
      rfl
  | @address address valid =>
    refine ⟨.address address, ?_, rfl⟩
    rw [String.toList_append, String.toList_append, List.append_assoc]
    exact .address valid

theorem WrittenPort.exists_portText {text : String} {port : UInt16}
    (written : WrittenPort text port) :
    ∃ read, PortText text.toList read ∧ read.getD defaultPort = port := by
  cases written with
  | number port =>
    refine ⟨some port, ?_, rfl⟩
    rw [String.toList_append, Nat.toString_eq_repr, Nat.toList_repr]
    exact .number port
  | colon => exact ⟨Option.none, .colon, rfl⟩
  | none => exact ⟨Option.none, .none, rfl⟩

theorem AbsolutePath.exists_rest {path : String} (absolute : AbsolutePath path) :
    ∃ rest, path.toList = '/' :: rest ∧
      ∀ segment ∈ rest.splitOn '/', segment ≠ ['.'] ∧ segment ≠ ['.', '.'] := by
  obtain ⟨root, plain⟩ := absolute
  obtain ⟨rest, same⟩ := List.head?_eq_some_iff.1 root
  refine ⟨rest, same, fun segment member => plain segment ?_⟩
  rw [same, List.splitOn_cons_eq_if_modifyHead, if_pos (beq_self_eq_true '/')]
  exact List.mem_cons_of_mem [] member

/-- The parameters of a URI without a query are the parts that are read of it. -/
theorem ofUri_of_parse {localUser uri keyPath username path : String} {passphrase : Option String}
    {host : Host} {port : Option UInt16}
    (read : Uri.parse uri = .ok { scheme := "ssh", username, host := some host, port, path }) :
    ofUri localUser uri keyPath passphrase = .ok {
      host := s!"{(hostTexts host).2}:{(port.getD defaultPort).toNat}"
      hostname := (hostTexts host).1
      port := port.getD defaultPort
      path
      user := if username = "" then localUser else username
      keyPath
      keyPassphrase := passphrase
      secure := true
      password := "" } := by
  unfold ofUri
  rw [read]
  dsimp only
  rw [if_neg (by decide)]
  have checked : isSecure none = true := rfl
  simp only [checked, String.isEmpty_iff]

/-! ## Encoded parts -/

/-- A name as it is encoded in a URI. -/
def encodedName (name : String) : String := String.ofList (percentEncode isUnreserved name.toList)

/-- A path as it is encoded in a URI. -/
def encodedPath (path : String) : String :=
  String.ofList (percentEncode isUnreservedOrSlash path.toList)

theorem encodedName_eq_self_iff {name : String} :
    encodedName name = name ↔ ∀ c ∈ name.toList, isUnreserved c = true := by
  rw [← Uri.percentEncode_eq_self_iff, ← String.toList_inj, encodedName, String.toList_ofList]

theorem encodedPath_eq_self_iff {path : String} :
    encodedPath path = path ↔ ∀ c ∈ path.toList, isUnreservedOrSlash c = true := by
  rw [← Uri.percentEncode_eq_self_iff, ← String.toList_inj, encodedPath, String.toList_ofList]

theorem encodedName_eq_empty_iff {name : String} : encodedName name = "" ↔ name = "" := by
  rw [← String.toList_eq_nil_iff, ← String.toList_eq_nil_iff, encodedName, String.toList_ofList]
  constructor
  · intro none
    have short := Uri.length_le_length_percentEncode isUnreserved name.toList
    rw [none] at short
    exact List.length_eq_zero_iff.1 (Nat.le_zero.1 short)
  · intro none
    rw [none]
    rfl

/-- The parameters of a URI with an encoded user and an encoded path keep both encoded. -/
theorem ofUri_encoded (localUser user keyPath : String) (passphrase : Option String)
    {written hostname portText path : String} {port : UInt16} (host : WrittenHost written hostname)
    (ported : WrittenPort portText port) (absolute : AbsolutePath path) :
    ofUri localUser ("ssh://" ++ encodedName user ++ "@" ++ written ++ portText ++ encodedPath path)
      keyPath passphrase = .ok {
        host := written ++ ":" ++ toString port.toNat
        hostname
        port
        path := encodedPath path
        user := if user = "" then localUser else encodedName user
        keyPath
        keyPassphrase := passphrase
        secure := true
        password := "" } := by
  obtain ⟨read, hostText, texts⟩ := host.exists_hostText
  obtain ⟨number, digits, known⟩ := ported.exists_portText
  obtain ⟨rest, split, plain⟩ := absolute.exists_rest
  have front : percentEncode isUnreservedOrSlash path.toList =
      '/' :: percentEncode isUnreservedOrSlash rest := by
    rw [split]
    rfl
  have whole : ("ssh://" ++ encodedName user ++ "@" ++ written ++ portText ++
      encodedPath path).toList = Uri.sshMark.toList ++ (percentEncode isUnreserved user.toList ++
        '@' :: (written.toList ++ portText.toList) ++
          '/' :: percentEncode isUnreservedOrSlash rest) := by
    simp only [String.toList_append, encodedName, encodedPath, String.toList_ofList, front,
      List.append_assoc, List.cons_append]
    rfl
  have parsed := Uri.parse_written whole (Uri.writtenWith_percentEncode_name _)
    (hostText.place digits) (Uri.writtenWith_percentEncode_path _)
    (Uri.pathAfterAuthority_percentEncode plain)
  rw [ofUri_of_parse parsed, texts, known, ← front]
  have named : (if String.ofList (percentEncode isUnreserved user.toList) = "" then localUser
      else String.ofList (percentEncode isUnreserved user.toList)) =
        if user = "" then localUser else encodedName user :=
    if_congr encodedName_eq_empty_iff rfl rfl
  rw [named]
  rfl

/-! ## Parts that need no encoding -/

/-- **The parameters of a URI that is written out are its parts**, and an empty user is the local
account. -/
theorem ofUri_written {localUser user written hostname portText path keyPath : String}
    {passphrase : Option String} {port : UInt16}
    (named : ∀ c ∈ user.toList, isNameChar c = true) (host : WrittenHost written hostname)
    (ported : WrittenPort portText port) (absolute : AbsolutePath path)
    (plain : ∀ c ∈ path.toList, isNameChar c = true ∨ c = '/') :
    ofUri localUser ("ssh://" ++ user ++ "@" ++ written ++ portText ++ path) keyPath passphrase =
      .ok {
        host := written ++ ":" ++ toString port.toNat
        hostname
        port
        path
        user := if user = "" then localUser else user
        keyPath
        keyPassphrase := passphrase
        secure := true
        password := "" } := by
  have name : encodedName user = user :=
    encodedName_eq_self_iff.2 fun c member => isUnreserved_of_isNameChar (named c member)
  have segments : encodedPath path = path := by
    refine encodedPath_eq_self_iff.2 fun c member => ?_
    rcases plain c member with word | rfl
    · simp [isUnreservedOrSlash, isUnreserved_of_isNameChar word]
    · rfl
  have read := ofUri_encoded localUser user keyPath passphrase host ported absolute
  rwa [name, segments] at read

/-- An address with a gap. -/
def gappedAddress : Uri.Ipv6 := ⟨[0x2001, 0xDB8, 0, 0, 0, 0, 0, 1]⟩

theorem gappedAddress_valid : gappedAddress.Valid := ⟨rfl, by decide⟩

/-- A user at an address with an empty port. -/
theorem ofUri_written_address :
    (∀ c ∈ "core".toList, isNameChar c = true) ∧ WrittenHost "[2001:db8::1]" "2001:db8::1" ∧
    WrittenPort ":" 22 ∧ AbsolutePath "/run/podman/podman.sock" ∧
    (∀ c ∈ "/run/podman/podman.sock".toList, isNameChar c = true ∨ c = '/') ∧
    ofUri "local" "ssh://core@[2001:db8::1]:/run/podman/podman.sock" "/keys/id" none = .ok {
      host := "[2001:db8::1]:22"
      hostname := "2001:db8::1"
      port := 22
      path := "/run/podman/podman.sock"
      user := "core"
      keyPath := "/keys/id"
      keyPassphrase := none
      secure := true
      password := "" } := by
  have text : gappedAddress.text = "2001:db8::1" := by decide
  have name : ∀ c ∈ "core".toList, isNameChar c = true := List.all_eq_true.1 (by decide)
  have host : WrittenHost "[2001:db8::1]" "2001:db8::1" := text ▸ .address gappedAddress_valid
  have path : AbsolutePath "/run/podman/podman.sock" := ⟨by decide, by decide⟩
  have plain : ∀ c ∈ "/run/podman/podman.sock".toList, isNameChar c = true ∨ c = '/' :=
    List.all_iff_forall_prop.1 (by decide)
  have uri : "ssh://core@[2001:db8::1]:/run/podman/podman.sock" =
      "ssh://" ++ "core" ++ "@" ++ "[2001:db8::1]" ++ ":" ++ "/run/podman/podman.sock" := by decide
  have shown : "[2001:db8::1]:22" = "[2001:db8::1]" ++ ":" ++ toString (22 : UInt16).toNat := by
    decide
  refine ⟨name, host, .colon, path, plain, ?_⟩
  rw [uri, shown]
  exact ofUri_written name host .colon path plain

/-- An empty user is not kept. -/
theorem ofUri_written_empty_user :
    (∀ c ∈ "".toList, isNameChar c = true) ∧ WrittenHost "h" "h" ∧ WrittenPort ":22" 22 ∧
    AbsolutePath "/p" ∧ (∀ c ∈ "/p".toList, isNameChar c = true ∨ c = '/') ∧
    ¬ ∃ params, ofUri "local" ("ssh://" ++ "" ++ "@" ++ "h" ++ ":22" ++ "/p") "/keys/id" none =
      .ok params ∧ params.user = "" := by
  have host : WrittenHost "h" "h" := .name (by decide) (List.all_eq_true.1 (by decide))
  have plain : ∀ c ∈ "/p".toList, isNameChar c = true ∨ c = '/' :=
    List.all_iff_forall_prop.1 (by decide)
  refine ⟨nofun, host, .number 22, ⟨by decide, by decide⟩, plain, ?_⟩
  have read : ofUri "local" ("ssh://" ++ "" ++ "@" ++ "h" ++ ":22" ++ "/p") "/keys/id" none = .ok {
      host := "h:22"
      hostname := "h"
      port := 22
      path := "/p"
      user := "local"
      keyPath := "/keys/id"
      keyPassphrase := none
      secure := true
      password := "" } := by decide +kernel
  rintro ⟨params, again, empty⟩
  rw [read] at again
  cases again
  exact absurd empty (by decide)

end Gangway.Ssh.Params
