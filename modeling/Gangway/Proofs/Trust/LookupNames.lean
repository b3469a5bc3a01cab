import Gangway.Proofs.Params.Parts
import Gangway.Proofs.Text.Glob
import Gangway.Proofs.Text.Letters
import Gangway.Proofs.Trust.Patterns

/-!
# Lookup names keep hosts and ports apart

The digits of a port hold no colon, so a lookup name with a port is taken apart at its last one, and
a name that is not in brackets is told from one that is. So two hosts that do not begin with a
bracket share a lookup name exactly when they are alike up to letter case and their ports are the
same, and a pattern without wildcards that one lookup name spells applies to no other host or port
(`lookupName_apart`).
-/

namespace Gangway.Ssh

open Gangway.Text (AlikeInCase WildcardFree lower lowerString)

/-! ## Names and ports -/

theorem toList_lookupName_of_ne {port : UInt16} (other : port ≠ defaultPort) (hostname : String) :
    (lookupName hostname port).toList =
      '[' :: (lower hostname.toList ++ ']' :: ':' :: Nat.toDigits 10 port.toNat) := by
  have digits : (toString port.toNat).toList = Nat.toDigits 10 port.toNat := String.toList_ofList
  rw [lookupName, if_neg other]
  simp only [String.toList_append, digits, lowerString, String.toList_ofList]
  simp

/-- Of two texts with digits behind a colon the digits and the fronts are the same. -/
theorem append_digits_inj {front front' : List Char} {port port' : UInt16}
    (same : front ++ ':' :: Nat.toDigits 10 port.toNat =
      front' ++ ':' :: Nat.toDigits 10 port'.toNat) : front = front' ∧ port = port' := by
  have plain (port : UInt16) : ':' ∉ (Nat.toDigits 10 port.toNat).reverse := by
    intro member
    cases Uri.isDigit_of_mem_port (List.mem_reverse.1 member)
  have turned := congrArg List.reverse same
  simp only [List.reverse_append, List.reverse_cons, List.append_assoc,
    List.singleton_append] at turned
  obtain ⟨digits, fronts⟩ := Text.append_cons_inj turned (plain port) (plain port')
  have number : some port = some port' := by
    rw [← Uri.portNumber?_toDigits port, ← Uri.portNumber?_toDigits port',
      List.reverse_inj.1 digits]
  exact ⟨List.reverse_inj.1 fronts, Option.some.inj number⟩

/-- A small form begins with a bracket only where the text does. -/
theorem bracket_prefix_of_lower {text rest : List Char} (same : lower text = '[' :: rest) :
    ['['] <+: text := by
  cases text with
  | nil => cases same
  | cons c text =>
    obtain ⟨first, -⟩ := List.cons.inj same
    have bracket : c = '[' := Text.eq_of_lowerChar_eq first (by decide)
    rw [bracket]
    exact List.prefix_append ['['] text

/-- **The lookup name tells hosts and ports apart**, where the hosts do not begin with a bracket. -/
theorem lookupName_eq_lookupName_iff {hostname hostname' : String} {port port' : UInt16}
    (bare : ¬ ['['] <+: hostname.toList) (bare' : ¬ ['['] <+: hostname'.toList) :
    lookupName hostname port = lookupName hostname' port' ↔
      AlikeInCase hostname.toList hostname'.toList ∧ port = port' := by
  -- A name alone is never a name in brackets.
  have apart {name name' : String} {standard other : UInt16} (bare : ¬ ['['] <+: name.toList)
      (alone : standard = defaultPort) (written : other ≠ defaultPort) :
      lookupName name standard ≠ lookupName name' other := by
    intro same
    have texts := congrArg String.toList same
    rw [toList_lookupName_of_ne written, lookupName, if_pos alone, lowerString,
      String.toList_ofList] at texts
    exact bare (bracket_prefix_of_lower texts)
  constructor
  · intro same
    by_cases alone : port = defaultPort
    · by_cases alone' : port' = defaultPort
      · rw [lookupName, if_pos alone, lookupName, if_pos alone'] at same
        exact ⟨Text.lowerString_eq_lowerString_iff.1 same, alone.trans alone'.symm⟩
      · exact absurd same (apart bare alone alone')
    · by_cases alone' : port' = defaultPort
      · exact absurd same.symm (apart bare' alone' alone)
      · have texts := congrArg String.toList same
        rw [toList_lookupName_of_ne alone, toList_lookupName_of_ne alone'] at texts
        have split (text digits : List Char) :
            text ++ ']' :: ':' :: digits = (text ++ [']']) ++ ':' :: digits := by
          simp
        rw [split, split] at texts
        obtain ⟨fronts, ports⟩ := append_digits_inj (List.cons.inj texts).2
        exact ⟨Text.lower_eq_lower_iff.1 (List.append_cancel_right fronts), ports⟩
  · rintro ⟨alike, rfl⟩
    unfold lookupName
    rw [Text.lowerString_eq_lowerString_iff.2 alike]

/-- A lookup name is in small letters. -/
theorem lower_lookupName (hostname : String) (port : UInt16) :
    lower (lookupName hostname port).toList = (lookupName hostname port).toList := by
  by_cases alone : port = defaultPort
  · rw [lookupName, if_pos alone, lowerString, String.toList_ofList, Text.lower_lower]
  · have digits : lower (Nat.toDigits 10 port.toNat) = Nat.toDigits 10 port.toNat := by
      refine Text.lower_eq_self fun c member capital => ?_
      have digit := Uri.isDigit_of_mem_port member
      have most : c.val ≤ '9'.val := (Bool.and_eq_true_iff.1 digit).2 |> of_decide_eq_true
      exact absurd (UInt32.le_trans capital.1 most) (by decide)
    have marks : Text.lowerChar '[' = '[' ∧ Text.lowerChar ']' = ']' ∧
        Text.lowerChar ':' = ':' := by
      decide
    have names : lower (lower hostname.toList) = lower hostname.toList := Text.lower_lower _
    rw [toList_lookupName_of_ne alone]
    unfold lower at digits names ⊢
    rw [List.map_cons, List.map_append, List.map_cons, List.map_cons, digits, names,
      marks.1, marks.2.1, marks.2.2]

/-! ## Patterns -/

/-- A name that is read as a pattern is read as itself, or as the exclusion of what follows its
mark. -/
theorem HostPattern.eq_name_of_parse {text : List Char} {pattern : HostPattern}
    (small : lower text = text) (unhashed : ¬ hashMark <+: text) (read : parse text = .ok pattern) :
    pattern = .name (String.ofList text) false ∨
      ∃ rest, text = '!' :: rest ∧ pattern = .name (String.ofList rest) true := by
  have named {negated : Bool} {name : List Char} (small : lower name = name)
      (read : ofName negated name = .ok pattern) :
      pattern = .name (String.ofList name) negated := by
    unfold ofName at read
    split at read
    · cases read
    · cases read
      rw [small]
  by_cases negated : ['!'] <+: text
  · obtain ⟨rest, rfl⟩ := negated
    exact .inr ⟨rest, rfl, named (List.cons.inj small).2 ((parse_negated rest).symm.trans read)⟩
  · exact .inl (named small ((parse_positive unhashed negated).symm.trans read))

theorem HostKeyEntry.applies_singleton {entry : HostKeyEntry} {pattern : HostPattern}
    (only : entry.patterns = [pattern]) (lookup : String) :
    entry.applies lookup = (!pattern.isNegated && pattern.selects lookup) := by
  unfold applies
  rw [only, search, search, search]
  cases pattern.selects lookup with
  | false => exact (Bool.and_false _).symm
  | true =>
    cases pattern.isNegated with
    | false => rfl
    | true => rfl

/-- A lookup name is no hashed pattern, unless its host holds the mark of one. -/
theorem unhashed_lookupName {hostname : String} (plain : '|' ∉ hostname.toList) (port : UInt16) :
    ¬ HostPattern.hashMark <+: (lookupName hostname port).toList := by
  rintro ⟨rest, same⟩
  by_cases alone : port = defaultPort
  · rw [lookupName, if_pos alone, lowerString, String.toList_ofList] at same
    have member : '|' ∈ lower hostname.toList := by
      rw [← same]
      exact List.mem_cons_self
    obtain ⟨c, inside, small⟩ := List.mem_map.1 member
    rw [Text.eq_of_lowerChar_eq small (by decide)] at inside
    exact plain inside
  · rw [toList_lookupName_of_ne alone] at same
    exact absurd (List.cons.inj same).1 (by decide)

/-- The lookup name of a host, as the only pattern of an entry and without wildcards, applies to
that name alone. -/
theorem applies_iff_lookupName_eq {hostname lookup : String} {port : UInt16} {entry : HostKeyEntry}
    {pattern : HostPattern} (plain : '|' ∉ hostname.toList)
    (read : HostPattern.parse (lookupName hostname port).toList = .ok pattern)
    (only : entry.patterns = [pattern]) (free : WildcardFree (lookupName hostname port).toList) :
    entry.applies lookup = true ↔
      pattern.isNegated = false ∧ lookupName hostname port = lookup := by
  rw [HostKeyEntry.applies_singleton only, Bool.and_eq_true, Bool.not_eq_true']
  rcases HostPattern.eq_name_of_parse (lower_lookupName hostname port)
    (unhashed_lookupName plain port) read with rfl | ⟨rest, -, rfl⟩
  · rw [String.ofList_toList]
    exact and_congr_right fun _ => Text.globMatches_utf8_iff free
  · constructor
    · rintro ⟨⟨⟩, -⟩
    · rintro ⟨⟨⟩, -⟩

/-! ## Hosts of accepted URIs -/

/-- The parameters are those of some URI. -/
def Params.Accepted (params : Params) : Prop :=
  ∃ localUser uri keyPath passphrase, ofUri localUser uri keyPath passphrase = .ok params

theorem Params.Accepted.bare {params : Params} (accepted : params.Accepted) :
    ¬ ['['] <+: params.hostname.toList := by
  obtain ⟨localUser, uri, keyPath, passphrase, accepted⟩ := accepted
  intro bracket
  exact not_mem_hostname accepted rfl (by decide) (bracket.subset List.mem_cons_self)

theorem Params.Accepted.plain {params : Params} (accepted : params.Accepted) :
    '|' ∉ params.hostname.toList := by
  obtain ⟨localUser, uri, keyPath, passphrase, accepted⟩ := accepted
  exact not_mem_hostname accepted rfl (by decide)

/-- **Lookup names keep hosts and ports apart.** Hosts that do not begin with a bracket, as no host
of an accepted URI does, have the same lookup name exactly when they are alike up to letter case and
their ports are the same. So an entry whose only pattern is the lookup name of an accepted URI,
without wildcards, applies to the lookup name of another one exactly when it is no exclusion and
hosts and ports agree in this way. -/
theorem lookupName_apart :
    (∀ (hostname hostname' : String) (port port' : UInt16),
      ¬ ['['] <+: hostname.toList → ¬ ['['] <+: hostname'.toList →
      (lookupName hostname port = lookupName hostname' port' ↔
        AlikeInCase hostname.toList hostname'.toList ∧ port = port')) ∧
    ∀ params : Params, params.Accepted →
      ¬ ['['] <+: params.hostname.toList ∧
      ∀ params' : Params, params'.Accepted → ∀ (entry : HostKeyEntry) (pattern : HostPattern),
        HostPattern.parse (lookupName params.hostname params.port).toList = .ok pattern →
        entry.patterns = [pattern] →
        WildcardFree (lookupName params.hostname params.port).toList →
        (entry.applies (lookupName params'.hostname params'.port) = true ↔
          pattern.isNegated = false ∧
            AlikeInCase params.hostname.toList params'.hostname.toList ∧
            params.port = params'.port) := by
  refine ⟨fun _ _ _ _ bare bare' => lookupName_eq_lookupName_iff bare bare', ?_⟩
  intro params accepted
  refine ⟨accepted.bare, ?_⟩
  intro params' accepted' entry pattern read only free
  rw [applies_iff_lookupName_eq accepted.plain read only free,
    lookupName_eq_lookupName_iff accepted.bare accepted'.bare]

/-- An address that ends like a port is kept apart from a port, and the entry for a bastion at a
port of its own applies to it in other letters, but not at the standard port. -/
theorem lookupName_apart_bastion :
    lookupName "fe80::1:2222" 22 ≠ lookupName "fe80::1" 2222 ∧
    ∃ params capitals standard : Params,
      Params.ofUri "ana" "ssh://Bastion:2222/run/podman.sock" "/keys/id" none = .ok params ∧
      Params.ofUri "eva" "ssh://core@BASTION:2222/tmp/sock" "/keys/rsa" none = .ok capitals ∧
      Params.ofUri "ana" "ssh://Bastion/run/podman.sock" "/keys/id" none = .ok standard ∧
      ∀ entry : HostKeyEntry, entry.patterns = [.name "[bastion]:2222" false] →
        entry.applies (lookupName capitals.hostname capitals.port) = true ∧
        ¬ entry.applies (lookupName standard.hostname standard.port) = true := by
  have apart : lookupName "fe80::1:2222" 22 ≠ lookupName "fe80::1" 2222 := by
    intro same
    have ports := ((lookupName_apart.1 _ _ _ _ (by decide) (by decide)).1 same).2
    exact absurd ports (by decide)
  obtain ⟨params, read⟩ : ∃ params, Params.ofUri "ana" "ssh://Bastion:2222/run/podman.sock"
    "/keys/id" none = .ok params := ⟨_, rfl⟩
  obtain ⟨capitals, readCapitals⟩ : ∃ params, Params.ofUri "eva" "ssh://core@BASTION:2222/tmp/sock"
    "/keys/rsa" none = .ok params := ⟨_, rfl⟩
  obtain ⟨standard, readStandard⟩ : ∃ params, Params.ofUri "ana" "ssh://Bastion/run/podman.sock"
    "/keys/id" none = .ok params := ⟨_, rfl⟩
  refine ⟨apart, params, capitals, standard, read, readCapitals, readStandard, ?_⟩
  intro entry only
  have host : params.hostname = "Bastion" ∧ params.port = 2222 := by cases read; exact ⟨rfl, rfl⟩
  have hostCapitals : capitals.hostname = "BASTION" ∧ capitals.port = 2222 := by
    cases readCapitals
    exact ⟨rfl, rfl⟩
  have hostStandard : standard.port = 22 := by cases readStandard; rfl
  have name : lookupName params.hostname params.port = "[bastion]:2222" := by
    rw [host.1, host.2]
    decide +kernel
  have pattern : HostPattern.parse (lookupName params.hostname params.port).toList =
      .ok (.name "[bastion]:2222" false) := by
    rw [name]
    decide +kernel
  have free : WildcardFree (lookupName params.hostname params.port).toList := by
    rw [name]
    exact ⟨by decide, by decide⟩
  obtain ⟨-, applies⟩ := lookupName_apart.2 params ⟨_, _, _, _, read⟩
  constructor
  · refine (applies capitals ⟨_, _, _, _, readCapitals⟩ entry _ pattern only free).2 ⟨rfl, ?_, ?_⟩
    · rw [host.1, hostCapitals.1]
      exact Text.lower_eq_lower_iff.1 (by decide +kernel)
    · rw [host.2, hostCapitals.2]
  · intro applied
    obtain ⟨-, -, same⟩ :=
      (applies standard ⟨_, _, _, _, readStandard⟩ entry _ pattern only free).1 applied
    rw [host.2, hostStandard] at same
    exact absurd same (by decide)

end Gangway.Ssh
