import Gangway.Proofs.Text.Cutting
import Gangway.Proofs.Text.Wildcards
import Gangway.Ssh.TrustStore

/-!
# Which lookup names an entry applies to

An entry applies to the names that one of its patterns selects and none of them excludes
(`applies_iff_selects`), which tells nothing of the order of the patterns. What a pattern matches is
said without the search for it: a name is cut by the pattern, and a hashed pattern holds all twenty
bytes of the keyed digest of the name.
-/

namespace Gangway

namespace Digest

open Gangway.Text (Bytes)

theorem length_bytesBE (count n : Nat) : (bytesBE count n).length = count := by
  rw [bytesBE, List.length_reverse]
  induction count generalizing n with
  | zero => rfl
  | succ count ih => rw [bytesLE, List.length_cons, ih]

theorem Sha1.length_digest (message : Bytes) : (Sha1.digest message).length = 20 := by
  simp [Sha1.digest, Sha1.State.bytes, length_bytesBE]

theorem length_hmacSha1 (key message : Bytes) : (hmacSha1 key message).length = 20 :=
  Sha1.length_digest _

end Digest

namespace Ssh

open Gangway.Text (Bytes CutBy utf8)

namespace HostPattern

/-! ## Reading a pattern -/

theorem parse_negated (rest : List Char) : parse ('!' :: rest) = ofName true rest := by
  have unhashed : Text.dropLeading hashMark ('!' :: rest) = none := rfl
  rw [parse, unhashed]

theorem parse_positive {text : List Char} (unhashed : ¬ hashMark <+: text)
    (positive : ¬ ['!'] <+: text) : parse text = ofName false text := by
  rw [parse, Text.dropLeading_eq_none_iff.2 unhashed]
  rintro rest rfl
  exact positive (List.prefix_append ['!'] rest)

/-! ## Matching a name -/

/-- What a pattern matches, negated or not. -/
inductive Matches (lookup : String) : HostPattern → Prop where
  | name {pattern : String} {negated : Bool} (cut : CutBy (utf8 pattern) (utf8 lookup)) :
      Matches lookup (.name pattern negated)
  | hashed {salt digest : Bytes} (whole : digest.length = 20)
      (bytes : ∀ place < 20, digest[place]? = (Digest.hmacSha1 salt (utf8 lookup))[place]?) :
      Matches lookup (.hashed salt digest)

theorem selects_iff_matches {pattern : HostPattern} {lookup : String} :
    pattern.selects lookup = true ↔ pattern.Matches lookup := by
  cases pattern with
  | name pattern negated =>
    rw [selects, Text.globMatches_iff_cutBy]
    exact ⟨.name, fun | .name cut => cut⟩
  | hashed salt digest =>
    have length := Digest.length_hmacSha1 salt (utf8 lookup)
    rw [selects, beq_iff_eq]
    constructor
    · rintro rfl
      exact .hashed length fun _ _ => rfl
    · rintro (_ | ⟨whole, bytes⟩)
      refine List.ext_getElem? fun place => ?_
      by_cases inside : place < 20
      · exact (bytes place inside).symm
      · rw [List.getElem?_eq_none (by omega), List.getElem?_eq_none (by omega)]

end HostPattern

namespace HostKeyEntry

/-- Some pattern selects the name, and none excludes it. -/
structure Selects (patterns : List HostPattern) (lookup : String) : Prop where
  chosen : ∃ pattern ∈ patterns, pattern.isNegated = false ∧ pattern.Matches lookup
  spared : ∀ pattern ∈ patterns, pattern.isNegated = true → ¬ pattern.Matches lookup

/-- What is found in the patterns read so far counts like a pattern in front of the others. -/
theorem search_eq_true_iff {lookup : String} {selected : Bool} {patterns : List HostPattern} :
    search lookup selected patterns = true ↔
      (selected = true ∨
        ∃ pattern ∈ patterns, pattern.isNegated = false ∧ pattern.Matches lookup) ∧
      ∀ pattern ∈ patterns, pattern.isNegated = true → ¬ pattern.Matches lookup := by
  induction patterns generalizing selected with
  | nil => simp [search]
  | cons pattern patterns ih =>
    simp only [search, List.exists_mem_cons_iff, List.forall_mem_cons]
    by_cases found : pattern.Matches lookup
    · rw [if_pos (HostPattern.selects_iff_matches.2 found)]
      cases negated : pattern.isNegated with
      | true => simp [found]
      | false => simp [ih, found]
    · rw [if_neg (mt HostPattern.selects_iff_matches.1 found), ih]
      simp [found]

theorem applies_iff_selects {entry : HostKeyEntry} {lookup : String} :
    entry.applies lookup = true ↔ Selects entry.patterns lookup := by
  rw [applies, search_eq_true_iff]
  constructor
  · rintro ⟨chosen, spared⟩
    exact ⟨chosen.resolve_left Bool.false_ne_true, spared⟩
  · rintro ⟨chosen, spared⟩
    exact ⟨.inr chosen, spared⟩

/-- Only the set of patterns counts. -/
theorem Selects.congr {patterns patterns' : List HostPattern} {lookup : String}
    (same : ∀ pattern, pattern ∈ patterns ↔ pattern ∈ patterns')
    (selects : Selects patterns lookup) : Selects patterns' lookup := by
  obtain ⟨⟨pattern, member, chosen⟩, spared⟩ := selects
  exact ⟨⟨pattern, (same pattern).1 member, chosen⟩,
    fun other inside => spared other ((same other).2 inside)⟩

/-- What is selected in spite of one more exclusion is selected without it. -/
theorem Selects.of_negated {before after : List HostPattern} {pattern : HostPattern}
    {lookup : String} (negated : pattern.isNegated = true)
    (selects : Selects (before ++ pattern :: after) lookup) : Selects (before ++ after) lookup := by
  obtain ⟨⟨chosen, member, positive, found⟩, spared⟩ := selects
  have kept : chosen ∈ before ++ after := by
    rcases List.mem_append.1 member with front | behind
    · exact List.mem_append_left after front
    · rcases List.mem_cons.1 behind with rfl | back
      · rw [negated] at positive
        cases positive
      · exact List.mem_append_right before back
  refine ⟨⟨chosen, kept, positive, found⟩, fun other inside => spared other ?_⟩
  exact (List.Sublist.append_left (List.sublist_cons_self pattern after) before).subset inside

/-- **Which names an entry applies to.** It applies to the names that some pattern of it selects and
no pattern excludes, where a hashed pattern matches the names with its digest. So neither the order
nor the repetitions of patterns count, an exclusion never adds a name, and exclusions alone apply to
no name. -/
theorem applies_by_patterns :
    (∀ (entry : HostKeyEntry) lookup,
      entry.applies lookup = true ↔ Selects entry.patterns lookup) ∧
    (∀ salt digest lookup, (HostPattern.hashed salt digest).Matches lookup ↔
      digest = Digest.hmacSha1 salt (utf8 lookup)) ∧
    (∀ entry entry' : HostKeyEntry,
      (∀ pattern, pattern ∈ entry.patterns ↔ pattern ∈ entry'.patterns) →
      ∀ lookup, entry.applies lookup = entry'.applies lookup) ∧
    (∀ (entry entry' : HostKeyEntry) before pattern after,
      entry.patterns = before ++ after → entry'.patterns = before ++ pattern :: after →
      pattern.isNegated = true →
      ∀ lookup, entry'.applies lookup = true → entry.applies lookup = true) ∧
    ∀ entry : HostKeyEntry, (∀ pattern ∈ entry.patterns, pattern.isNegated = true) →
      ∀ lookup, entry.applies lookup = false := by
  refine ⟨?_, ?_, ?_, ?_, ?_⟩
  · intro entry lookup
    exact applies_iff_selects
  · intro salt digest lookup
    rw [← HostPattern.selects_iff_matches, HostPattern.selects, beq_iff_eq, eq_comm]
  · intro entry entry' same lookup
    rw [Bool.eq_iff_iff, applies_iff_selects, applies_iff_selects]
    exact ⟨.congr same, .congr fun pattern => (same pattern).symm⟩
  · intro entry entry' before pattern after patterns patterns' negated lookup applies
    rw [applies_iff_selects, patterns'] at applies
    rw [applies_iff_selects, patterns]
    exact applies.of_negated negated
  · intro entry negated lookup
    rw [Bool.eq_false_iff]
    intro applies
    obtain ⟨⟨pattern, member, positive, -⟩, -⟩ := applies_iff_selects.1 applies
    rw [negated pattern member] at positive
    cases positive

/-- An entry for a domain with one host taken out, in front of the domain and behind it. -/
theorem applies_by_patterns_domain :
    (HostKeyEntry.mk [.name "db.lan" true, .name "*.lan" false] (.other "a@b" [7])).applies
        "db.lan" = false ∧
      (HostKeyEntry.mk [.name "*.lan" false, .name "db.lan" true, .name "*.lan" false]
        (.other "a@b" [7])).applies "db.lan" = false ∧
      (HostKeyEntry.mk [.name "*.lan" false] (.other "a@b" [7])).applies "web.lan" = true ∧
      (HostKeyEntry.mk [.name "db.lan" true] (.other "a@b" [7])).applies "web.lan" = false := by
  have front : (HostKeyEntry.mk [.name "db.lan" true, .name "*.lan" false]
      (.other "a@b" [7])).applies "db.lan" = false := by
    decide
  refine ⟨front, ?_, ?_, ?_⟩
  · rw [← applies_by_patterns.2.2.1 (HostKeyEntry.mk [.name "db.lan" true, .name "*.lan" false]
      (.other "a@b" [7])) _ (by simp [or_comm]), front]
  · exact applies_by_patterns.2.2.2.1 _
      (HostKeyEntry.mk [.name "*.lan" false, .name "db.lan" true] (.other "a@b" [7]))
      [.name "*.lan" false] (.name "db.lan" true) [] rfl rfl rfl "web.lan" (by decide)
  · exact applies_by_patterns.2.2.2.2 _ (by decide) "web.lan"

end HostKeyEntry

end Ssh

end Gangway
