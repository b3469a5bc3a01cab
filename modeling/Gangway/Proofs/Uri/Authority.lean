import Gangway.Proofs.Uri.Address
import Gangway.Proofs.Uri.Paths
import Gangway.Proofs.Uri.Query
import Mathlib.Data.List.TakeWhile

/-!
# Authorities that are written out

An ssh URI is written as a user, a host, which is a name or an address in brackets, a port or none,
and a path. Reading it gives these parts back (`parse_written`).
-/

namespace Gangway.Uri

/-- A host and a port as they are written behind the user part, and what is read of them. -/
structure Place (hostText portText : List Char) (host : Host) (port : Option UInt16) : Prop where
  cut : cutHost false (hostText ++ portText) = (hostText, portText)
  filled : hostText ≠ []
  host : opaqueHost hostText = .ok host
  port : cutPort portText = .ok (port, [])
  plain : WrittenWith [':', '[', ']'] (hostText ++ portText)

/-! ## Ports -/

/-- A port as it is written behind a host: its number behind a colon, or none. -/
inductive PortText : List Char → Option UInt16 → Prop where
  | number (port : UInt16) : PortText (':' :: Nat.toDigits 10 port.toNat) (some port)
  | colon : PortText [':'] none
  | none : PortText [] none

theorem portNumber?_toDigits (port : UInt16) :
    portNumber? (Nat.toDigits 10 port.toNat) = some port := by
  unfold portNumber?
  rw [foldl_toDigits]
  exact (if_pos port.toNat_lt).trans (congrArg some (UInt16.ofNat_toNat))

theorem isDigit_of_mem_port {port : UInt16} {c : Char}
    (member : c ∈ Nat.toDigits 10 port.toNat) : c.isDigit = true :=
  Nat.isDigit_of_mem_toDigits (by decide) (by decide) member

theorem PortText.cutPort {text : List Char} {port : Option UInt16} (written : PortText text port) :
    Uri.cutPort text = .ok (port, []) := by
  cases written with
  | number port =>
    have digits : (Nat.toDigits 10 port.toNat).span Char.isDigit =
        (Nat.toDigits 10 port.toNat, []) := Text.span_of_all fun _ => isDigit_of_mem_port
    have filled : (Nat.toDigits 10 port.toNat).isEmpty = false := by
      simp
    unfold Uri.cutPort
    simp only [digits, Uri.cutPort.finish, filled, portNumber?_toDigits]
    rfl
  | colon => rfl
  | none => rfl

theorem PortText.cutHost {text : List Char} {port : Option UInt16} (written : PortText text port) :
    Uri.cutHost false text = ([], text) := by
  cases written with
  | number => rfl
  | colon => rfl
  | none => rfl

theorem PortText.plain {text : List Char} {port : Option UInt16} (written : PortText text port) :
    WrittenWith [':', '[', ']'] text := by
  cases written with
  | number port =>
    refine .cons (.inr (by decide)) fun c member => .inl ?_
    simp [isUnreserved, Char.isAlphanum, isDigit_of_mem_port member]
  | colon => exact .cons (.inr (by decide)) .nil
  | none => exact .nil

/-! ## Hosts -/

theorem not_forbidden_of_isUnreserved {c : Char} (unreserved : isUnreserved c = true) :
    isForbiddenInHost c = false := by
  have all : ∀ n : Fin 128, isUnreserved (Char.ofNat n) = true →
      isForbiddenInHost (Char.ofNat n) = false := by decide
  exact forall_ascii (p := fun c => isUnreserved c = true → isForbiddenInHost c = false) all
    (ascii_of_isUnreserved unreserved) unreserved

/-- A name goes on up to the colon of its port. -/
theorem cutHost_name {name : List Char} (plain : ∀ c ∈ name, isUnreserved c = true)
    (rest : List Char) : cutHost false (name ++ rest) =
      (name ++ (cutHost false rest).1, (cutHost false rest).2) := by
  induction name with
  | nil => rfl
  | cons c name ih =>
    have colon : c ≠ ':' := ne_of_isUnreserved (plain c List.mem_cons_self) rfl
    have bracket : c ≠ '[' := ne_of_isUnreserved (plain c List.mem_cons_self) rfl
    have tail := ih fun d member => plain d (List.mem_cons_of_mem c member)
    rw [List.cons_append, cutHost, if_neg (by simp [colon])]
    simp only [bracket, decide_false, Bool.and_false, Bool.or_false, tail]
    rfl

/-- Brackets hold everything up to the closing one. -/
theorem cutHost_inside {inner : List Char} (plain : ']' ∉ inner) (rest : List Char) :
    cutHost true (inner ++ rest) = (inner ++ (cutHost true rest).1, (cutHost true rest).2) := by
  induction inner with
  | nil => rfl
  | cons c inner ih =>
    have close : c ≠ ']' := fun same => plain (same ▸ List.mem_cons_self)
    have tail := ih fun member => plain (List.mem_cons_of_mem c member)
    have inside : (decide (c = '[') || (c != ']' && true)) = true := by simp [close]
    rw [List.cons_append, cutHost, if_neg (by simp)]
    simp only [inside, tail]
    rfl

theorem opaqueHost_name {name : List Char} (plain : ∀ c ∈ name, isUnreserved c = true) :
    opaqueHost name = .ok (.name (String.ofList name)) := by
  have bare : bracketed? name = none := by
    cases name with
    | nil => rfl
    | cons c rest =>
      have bracket : c ≠ '[' := ne_of_isUnreserved (plain c List.mem_cons_self) rfl
      unfold bracketed?
      split
      case h_1 same => exact absurd (List.cons.inj same).1 bracket
      case h_2 => rfl
  have allowed : name.any isForbiddenInHost = false :=
    List.any_eq_false.2 fun c member => by
      simp [not_forbidden_of_isUnreserved (plain c member)]
  have kept : percentEncode hostKeeps name = name :=
    percentEncode_of_kept fun c member => (kept_of_isUnreserved (plain c member)).2.2.2
  rw [opaqueHost, bare]
  simp only [allowed, kept]
  rfl

/-- An opaque host is an address in brackets, or a name without what a host must not hold. -/
theorem cases_of_opaqueHost {text : List Char} {host : Host}
    (read : opaqueHost text = .ok host) :
    (∃ inner address, text = '[' :: (inner ++ [']']) ∧ Ipv6.parse? inner = some address ∧
      host = .address address) ∨
    (∀ c ∈ text, isForbiddenInHost c = false) ∧
      host = .name (String.ofList (percentEncode hostKeeps text)) := by
  unfold opaqueHost at read
  split at read
  case h_1 bracketed =>
    unfold bracketed? at bracketed
    split at bracketed
    case h_2 => cases bracketed
    case h_1 rest =>
      split at bracketed
      case h_2 =>
        cases bracketed
        cases read
      case h_1 inner turned =>
        split at bracketed
        case h_2 =>
          cases bracketed
          cases read
        case h_1 address parsed =>
          cases bracketed
          cases read
          have whole : rest = inner.reverse ++ [']'] := by
            rw [← List.reverse_inj, turned]
            simp
          exact .inl ⟨inner.reverse, address, congrArg _ whole, parsed, rfl⟩
  case h_2 =>
    split at read
    case isTrue => cases read
    case isFalse allowed =>
      cases read
      exact .inr ⟨by simpa using allowed, rfl⟩

theorem opaqueHost_brackets {address : Ipv6} (valid : address.Valid) :
    opaqueHost ('[' :: (address.text.toList ++ [']'])) = .ok (.address address) := by
  have read : bracketed? ('[' :: (address.text.toList ++ [']'])) =
      some (.ok (.address address)) := by
    have back : (address.text.toList ++ [']']).reverse = ']' :: address.text.toList.reverse :=
      List.reverse_concat
    simp only [bracketed?, back, List.reverse_reverse, Ipv6.parse?_text valid]
  rw [opaqueHost, read]

/-- A host as it is written in a URI: a name, or an address in brackets. -/
inductive HostText : List Char → Host → Prop where
  | name {text : List Char} (filled : text ≠ []) (plain : ∀ c ∈ text, isUnreserved c = true) :
      HostText text (.name (String.ofList text))
  | address {address : Ipv6} (valid : address.Valid) :
      HostText ('[' :: (address.text.toList ++ [']'])) (.address address)

theorem bracket_not_mem_text (address : Ipv6) : ']' ∉ address.text.toList := by
  intro member
  rcases Ipv6.mem_text member with word | colon | dot
  · cases word
  · cases colon
  · cases dot

/-- A host and a port that are written as such are read as such. -/
theorem HostText.place {hostText portText : List Char} {host : Host} {port : Option UInt16}
    (named : HostText hostText host) (written : PortText portText port) :
    Place hostText portText host port := by
  cases named with
  | name filled plain =>
    refine ⟨?_, filled, opaqueHost_name plain, written.cutPort, ?_⟩
    · rw [cutHost_name plain, written.cutHost, List.append_nil]
    · exact .append (fun c member => .inl (plain c member)) written.plain
  | @address address valid =>
    refine ⟨?_, List.cons_ne_nil _ _, opaqueHost_brackets valid, written.cutPort, ?_⟩
    · rw [List.cons_append, List.append_assoc, cutHost, if_neg (by simp)]
      simp only [decide_true, Bool.true_or, cutHost_inside (bracket_not_mem_text address)]
      -- The closing bracket ends what is inside.
      change ('[' :: (address.text.toList ++ ']' :: (cutHost false portText).1),
        (cutHost false portText).2) = _
      rw [written.cutHost]
    · have inner : WrittenWith [':', '[', ']'] address.text.toList := by
        intro c member
        rcases Ipv6.mem_text member with word | rfl | rfl
        · exact .inl (by simp [isUnreserved, word])
        · exact .inr (by decide)
        · exact .inl rfl
      have close : WrittenWith [':', '[', ']'] [']'] := .cons (.inr (by decide)) .nil
      exact .append (.cons (.inr (by decide)) (inner.append close)) written.plain

/-! ## Whole URIs -/

theorem cutUser_append {place : List Char} (plain : '@' ∉ place) (user : List Char) :
    cutUser (user ++ '@' :: place) = some (user, place) := by
  have back : (user ++ '@' :: place).reverse = place.reverse ++ '@' :: user.reverse := by
    rw [List.reverse_append, List.reverse_cons, List.append_assoc]
    rfl
  have cut : (place.reverse ++ '@' :: user.reverse).span (· != '@') =
      (place.reverse, '@' :: user.reverse) := by
    refine Text.span_append (fun c member => ?_) (by simp)
    exact bne_iff_ne.2 (ne_of_mem_of_not_mem (List.mem_reverse.1 member) plain)
  rw [cutUser, back, cut]
  simp only [List.reverse_reverse]

theorem userName_of_plain {user : List Char} (plain : ':' ∉ user) :
    userName user = (user, !user.isEmpty) := by
  have whole : Text.splitOnce [':'] user = none :=
    Text.splitOnce_eq_none_iff.2 fun inside => plain (inside.mem List.mem_cons_self)
  rw [userName, whole]

theorem Place.readPlace {scheme : String} {user : List Char × Bool}
    {hostText portText rest : List Char} {host : Host} {port : Option UInt16}
    (place : Place hostText portText host port) :
    Uri.readPlace scheme user (hostText ++ portText) rest = .ok {
      scheme
      username := String.ofList (percentEncode userKeeps user.1)
      host := some host
      port
      path := String.ofList (pathAfterAuthority false (cutQuery rest).1)
      query := (cutQuery rest).2 } := by
  unfold Uri.readPlace
  simp only [place.cut, place.host, place.port, place.filled, false_and, if_false, bind,
    Except.bind, List.nil_append]

/-- **A URI that is written out is read back in its parts.** -/
theorem parse_written {uri : String} {user hostText portText path : List Char} {host : Host}
    {port : Option UInt16}
    (written : uri.toList =
      sshMark.toList ++ (user ++ '@' :: (hostText ++ portText) ++ '/' :: path))
    (userPlain : WrittenWith ['%'] user) (place : Place hostText portText host port)
    (pathPlain : WrittenWith ['%', '/'] path)
    (normal : pathAfterAuthority false ('/' :: path) = '/' :: path) :
    parse uri = .ok {
      scheme := "ssh"
      username := String.ofList user
      host := some host
      port
      path := String.ofList ('/' :: path) } := by
  -- No mark in the authority ends it, and only the one behind the user is an `@`.
  have authority : WrittenWith ['%', '@', ':', '[', ']'] (user ++ '@' :: (hostText ++ portText)) :=
    (userPlain.mono (by simp)).append (.cons (.inr (by simp)) (place.plain.mono (by simp)))
  have whole : WrittenWith ['%', '@', ':', '[', ']', '/']
      (user ++ '@' :: (hostText ++ portText) ++ '/' :: path) :=
    (authority.mono (by simp)).append (.cons (.inr (by simp)) (pathPlain.mono (by simp)))
  have cut : (user ++ '@' :: (hostText ++ portText) ++ '/' :: path).span
      (fun c => !endsAuthority false c) =
        (user ++ '@' :: (hostText ++ portText), '/' :: path) := by
    refine Text.span_append (fun c member => ?_) (by simp [endsAuthority])
    have slash : c ≠ '/' := ne_of_mem_of_not_mem member (authority.not_mem (by decide) rfl)
    have query : c ≠ '?' := ne_of_mem_of_not_mem member (authority.not_mem (by decide) rfl)
    have hash : c ≠ '#' := ne_of_mem_of_not_mem member (authority.not_mem (by decide) rfl)
    simp [endsAuthority, slash, query, hash]
  have kept : percentEncode userKeeps user = user := by
    refine percentEncode_of_kept fun c member => ?_
    rcases userPlain c member with word | percent
    · exact (kept_of_isUnreserved word).2.1
    · rw [List.mem_singleton.1 percent]
      decide
  have query : cutQuery ('/' :: path) = ('/' :: path, none) := by
    have all : WrittenWith ['%', '/'] ('/' :: path) := .cons (.inr (by simp)) pathPlain
    exact cutQuery_of_unmarked ⟨all.not_mem (by decide) rfl, all.not_mem (by decide) rfl⟩
  have shown : ∀ mark ∈ ['%', '@', ':', '[', ']', '/'], ' ' < mark :=
    List.all_iff_forall_prop.1 (by decide)
  rw [parse_of_sshMark written, cleanedEnd_of_visible (whole.visible shown),
    afterSlashes_eq cut, cutUser_append (place.plain.not_mem (by decide) rfl)]
  dsimp only
  rw [if_neg fun empty => place.filled (List.append_eq_nil_iff.1 empty.2.1).1,
    userName_of_plain (userPlain.not_mem (by decide) rfl), place.readPlace, kept, query, normal]

end Gangway.Uri
