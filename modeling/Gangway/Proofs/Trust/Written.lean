import Gangway.Proofs.Encoding.Base64
import Gangway.Proofs.Outcomes
import Gangway.Proofs.Text.Words
import Gangway.Proofs.Trust.Patterns
import Gangway.Proofs.Trust.Store
import Mathlib.Data.Bool.AllAny

/-!
# Lines of a trust store and back

An entry is written as its patterns with commas between them, the type of the key and the key, with
blanks between the fields and anything behind them. The line is read back as the entry, and only a
line that is empty, a comment or a marker line says nothing (`parseLine_exact`).
-/

namespace Gangway.Ssh

open Gangway.Text (AllBlank Bytes EndsWord IsWord utf8Chars)

namespace HostPattern

/-! ## One pattern -/

/-- A sequence of bytes as a hashed pattern holds it. -/
def writeHash (bytes : Bytes) : List Char := (Base64.text (Base64.write bytes)).toList

/-- A pattern as a line holds it. -/
def write : HostPattern → List Char
  | .name pattern true => '!' :: pattern.toList
  | .name pattern false => pattern.toList
  | .hashed salt digest => hashMark ++ (writeHash salt ++ ['|'] ++ writeHash digest)

/-- A pattern that a line can hold. A name without `!` in front of it must not look like a negated or
a hashed one. -/
inductive Writable : HostPattern → Prop where
  | name {pattern : String} {negated : Bool} (filled : pattern ≠ "")
      (small : Text.lowerString pattern = pattern)
      (solid : ∀ c ∈ pattern.toList, Text.isBlank c = false ∧ c ≠ ',')
      (plain : negated = false → ¬ ['!'] <+: pattern.toList ∧ ¬ hashMark <+: pattern.toList) :
      Writable (.name pattern negated)
  | hashed (salt digest : Bytes) : Writable (.hashed salt digest)

theorem isPlain_of_mem_writeHash {bytes : Bytes} {c : Char} (member : c ∈ writeHash bytes) :
    Base64.IsPlain c :=
  Base64.isPlain_of_mem_text (Base64.isDigit_of_mem_write bytes) member

/-- A side of a hashed pattern is read back. -/
theorem readHash_writeHash (bytes : Bytes) : readHash (writeHash bytes) = .ok bytes := by
  unfold readHash writeHash
  rw [Base64.utf8Chars_text (Base64.isDigit_of_mem_write bytes), Base64.readStrict_write]

theorem ofName_of_lower {pattern : String} (filled : pattern ≠ "")
    (small : Text.lowerString pattern = pattern) (negated : Bool) :
    ofName negated pattern.toList = .ok (.name pattern negated) := by
  have some : pattern.toList.isEmpty = false := by
    simpa using filled
  have same : String.ofList (Text.lower pattern.toList) = pattern := small
  unfold ofName
  rw [some, same]
  rfl

/-- A pattern is read back. -/
theorem parse_write {pattern : HostPattern} (writable : pattern.Writable) :
    parse pattern.write = .ok pattern := by
  cases writable with
  | @name pattern negated filled small solid plain =>
    cases negated with
    | true => exact (parse_negated pattern.toList).trans (ofName_of_lower filled small true)
    | false =>
      obtain ⟨unnegated, unhashed⟩ := plain rfl
      exact (parse_positive unhashed unnegated).trans (ofName_of_lower filled small false)
  | hashed salt digest =>
    have cut : Text.splitOnce ['|'] (writeHash salt ++ ['|'] ++ writeHash digest) =
        some (writeHash salt, writeHash digest) := by
      apply Text.splitOnce_append (List.cons_ne_nil _ _)
      intro inside
      rw [List.dropLast_singleton, List.append_nil] at inside
      have member : '|' ∈ writeHash salt := inside.mem List.mem_cons_self
      exact (isPlain_of_mem_writeHash member).2.2 rfl
    unfold parse write
    rw [Text.dropLeading_eq_some_iff.2 rfl]
    dsimp only
    rw [cut]
    simp only [readHash_writeHash, bind, Except.bind]

/-- A pattern that is written holds neither blanks nor commas. -/
theorem solid_of_mem_write {pattern : HostPattern} (writable : pattern.Writable) {c : Char}
    (member : c ∈ pattern.write) : Text.isBlank c = false ∧ c ≠ ',' := by
  cases writable with
  | @name pattern negated filled small solid plain =>
    cases negated with
    | true =>
      rcases List.mem_cons.1 member with rfl | inside
      · decide
      · exact solid c inside
    | false => exact solid c member
  | hashed salt digest =>
    simp only [write, hashMark, List.mem_append, List.mem_cons, List.not_mem_nil, or_false] at member
    rcases member with (rfl | rfl | rfl) | (inside | rfl) | inside
    · decide
    · decide
    · decide
    · exact ⟨(isPlain_of_mem_writeHash inside).1, (isPlain_of_mem_writeHash inside).2.1⟩
    · decide
    · exact ⟨(isPlain_of_mem_writeHash inside).1, (isPlain_of_mem_writeHash inside).2.1⟩

theorem write_ne_nil {pattern : HostPattern} (writable : pattern.Writable) :
    pattern.write ≠ [] := by
  cases writable with
  | @name pattern negated filled small solid plain =>
    cases negated with
    | true => exact List.cons_ne_nil _ _
    | false =>
      intro empty
      exact filled (String.toList_eq_nil_iff.1 empty)
  | hashed salt digest => simp [write, hashMark]

end HostPattern

namespace HostKeyEntry

open HostPattern (Writable)

/-! ## The fields of a line -/

/-- The first field of a line: the patterns with commas between them. -/
def hostsText (patterns : List HostPattern) : List Char :=
  [','].intercalate (patterns.map HostPattern.write)

/-- The patterns of a line are read back, in their order. -/
theorem parsePatterns_hostsText {patterns : List HostPattern} (some : patterns ≠ [])
    (writable : ∀ pattern ∈ patterns, pattern.Writable) :
    parsePatterns (hostsText patterns) = .ok patterns := by
  have cut : Text.pieces ',' (hostsText patterns) = patterns.map HostPattern.write := by
    rw [Text.pieces_eq_splitOn]
    apply List.splitOn_intercalate
    · intro text member comma
      obtain ⟨pattern, inside, rfl⟩ := List.mem_map.1 member
      exact (HostPattern.solid_of_mem_write (writable pattern inside) comma).2 rfl
    · simpa using some
  have read : (patterns.map HostPattern.write).mapM HostPattern.parse = .ok patterns := by
    clear cut some
    induction patterns with
    | nil => rfl
    | cons pattern patterns ih =>
      obtain ⟨first, rest⟩ := List.forall_mem_cons.1 writable
      rw [List.map_cons, List.mapM_cons, bind_eq_ok_iff]
      refine ⟨pattern, HostPattern.parse_write first, ?_⟩
      rw [bind_eq_ok_iff]
      exact ⟨patterns, ih rest, rfl⟩
  rw [parsePatterns, cut, read]

theorem exists_hostsText_cons (pattern : HostPattern) (patterns : List HostPattern) :
    ∃ rest, hostsText (pattern :: patterns) = pattern.write ++ rest := by
  cases patterns with
  | nil => exact ⟨[], by simp [hostsText]⟩
  | cons next patterns =>
    refine ⟨',' :: hostsText (next :: patterns), ?_⟩
    simp [hostsText]

theorem isWord_hostsText {patterns : List HostPattern} (some : patterns ≠ [])
    (writable : ∀ pattern ∈ patterns, pattern.Writable) : IsWord (hostsText patterns) := by
  constructor
  · obtain ⟨pattern, patterns, rfl⟩ := List.exists_cons_of_ne_nil some
    obtain ⟨rest, same⟩ := exists_hostsText_cons pattern patterns
    rw [same]
    apply List.append_ne_nil_of_left_ne_nil
    exact HostPattern.write_ne_nil (writable pattern List.mem_cons_self)
  · intro c member
    rcases Text.mem_of_mem_intercalate member with between | ⟨text, inside, found⟩
    · rw [List.mem_singleton.1 between]
      decide
    · obtain ⟨pattern, known, rfl⟩ := List.mem_map.1 inside
      exact (HostPattern.solid_of_mem_write (writable pattern known) found).1

/-- A field that decodes to a key is a word. -/
theorem isWord_of_ofBase64? {field : List Char} {key : PublicKey}
    (decodes : PublicKey.ofBase64? field = some key) : IsWord field := by
  obtain ⟨bytes, groups, read⟩ := Option.bind_eq_some_iff.1 decodes
  constructor
  · rintro rfl
    cases groups
    cases read
  · intro c member
    exact (Base64.isPlain_of_utf8Chars (Base64.isDigit_of_readGroups groups) member).1

/-! ## Whole lines -/

/-- The line holds an entry: patterns, the type of a key and the key, with blanks between them,
maybe blanks in front, and behind them nothing or, set off by a blank, anything. The text of the
patterns does not begin like a comment or a marker. -/
inductive Holds (patterns : List HostPattern) (key : PublicKey) : List Char → Prop where
  | line {lead gap space keyType field tail : List Char} (filled : patterns ≠ [])
      (writable : ∀ pattern ∈ patterns, pattern.Writable)
      (first : ∀ c ∈ (hostsText patterns).head?, c ≠ '#' ∧ c ≠ '@')
      (lead_blank : AllBlank lead)
      (gap_blank : AllBlank gap) (gap_some : gap ≠ [])
      (typed : IsWord keyType)
      (space_blank : AllBlank space) (space_some : space ≠ [])
      (decodes : PublicKey.ofBase64? field = some key)
      (ends : EndsWord tail) :
      Holds patterns key (lead ++ hostsText patterns ++ gap ++ keyType ++ space ++ field ++ tail)

theorem isIgnorable_iff {line : List Char} :
    isIgnorable line = true ↔ line = [] ∨ ['#'] <+: line ∨ ['@'] <+: line := by
  cases line with
  | nil => simp [isIgnorable]
  | cons c line =>
    simp only [isIgnorable, Bool.or_eq_true, decide_eq_true_eq, List.cons_prefix_cons,
      List.nil_prefix, and_true]
    simp [eq_comm]

/-- A line that says something is read by its words. -/
theorem parseLine_of_words {line hosts keyType field : List Char} {rest : List (List Char)}
    (said : isIgnorable (Text.trim line) = false)
    (words : Text.words line = hosts :: keyType :: field :: rest)
    {patterns : List HostPattern} (read : parsePatterns hosts = .ok patterns) {key : PublicKey}
    (decodes : PublicKey.ofBase64? field = some key) :
    parseLine line = .ok (some { patterns, key }) := by
  unfold parseLine
  simp only [said, Text.words_trim, words, read, decodes]
  rfl

theorem Holds.parseLine {patterns : List HostPattern} {key : PublicKey} {line : List Char}
    (holds : Holds patterns key line) :
    HostKeyEntry.parseLine line = .ok (some { patterns, key }) := by
  cases holds with
  | @line lead gap space keyType field tail filled writable first lead_blank gap_blank gap_some typed
      space_blank space_some decodes ends =>
    have hosts := isWord_hostsText filled writable
    have keyed := isWord_of_ofBase64? decodes
    have words : Text.words (lead ++ hostsText patterns ++ gap ++ keyType ++ space ++ field ++ tail) =
        hostsText patterns :: keyType :: field :: Text.words tail := by
      simp only [List.append_assoc]
      rw [Text.words_blanks_append lead_blank,
        Text.words_word_append hosts (gap_blank.endsWord_append gap_some _),
        Text.words_blanks_append gap_blank,
        Text.words_word_append typed (space_blank.endsWord_append space_some _),
        Text.words_blanks_append space_blank, Text.words_word_append keyed ends]
    have said : isIgnorable (Text.trim
        (lead ++ hostsText patterns ++ gap ++ keyType ++ space ++ field ++ tail)) = false := by
      obtain ⟨c, more, split⟩ := List.exists_cons_of_ne_nil hosts.filled
      have solid : Text.isBlank c = false := by
        apply hosts.solid
        rw [split]
        exact List.mem_cons_self
      obtain ⟨rest, trimmed⟩ :=
        Text.exists_trim lead_blank solid (more ++ gap ++ keyType ++ space ++ field ++ tail)
      have shown : c ≠ '#' ∧ c ≠ '@' := first c (by rw [split]; rfl)
      simp only [split, List.append_assoc, List.cons_append] at trimmed ⊢
      rw [trimmed]
      simp [isIgnorable, shown]
    exact parseLine_of_words said words (parsePatterns_hostsText filled writable) decodes

/-- **Lines of a trust store and back.** A line that an entry is written on is read as that entry,
and the lines that give neither an entry nor an error are those that are empty, a comment or a
marker line once trimmed. -/
theorem parseLine_exact :
    (∀ patterns key line, Holds patterns key line →
      parseLine line = .ok (some { patterns, key })) ∧
    ∀ line, parseLine line = .ok none ↔
      Text.trim line = [] ∨ ['#'] <+: Text.trim line ∨ ['@'] <+: Text.trim line := by
  constructor
  · intro patterns key line holds
    exact holds.parseLine
  · intro line
    rw [parseLine_eq_none_iff, isIgnorable_iff]

/-- A line with a name, an excluded name and a hashed name. -/
theorem parseLine_exact_mixed :
    parseLine " *.lan,!db,|1|AQI=|Aw==\tssh-x  AAAAA2FAYgAAAAEH me #1".toList =
      .ok (some {
        patterns := [.name "*.lan" false, .name "db" true, .hashed [1, 2] [3]]
        key := .other "a@b" [7] }) := by
  have writable : ∀ pattern ∈ [HostPattern.name "*.lan" false, .name "db" true, .hashed [1, 2] [3]],
      pattern.Writable := by
    simp only [List.forall_mem_cons]
    refine ⟨?_, ?_, .hashed _ _, nofun⟩
    · exact .name (by decide) (by decide) (List.all_iff_forall_prop.1 (by decide)) (by decide)
    · exact .name (by decide) (by decide) (List.all_iff_forall_prop.1 (by decide)) nofun
  have begins : (hostsText [.name "*.lan" false, .name "db" true, .hashed [1, 2] [3]]).head? =
      some '*' := by decide +kernel
  have holds : Holds [.name "*.lan" false, .name "db" true, .hashed [1, 2] [3]]
      (.other "a@b" [7]) ([' '] ++ "*.lan,!db,|1|AQI=|Aw==".toList ++ ['\t'] ++ "ssh-x".toList ++
        "  ".toList ++ "AAAAA2FAYgAAAAEH".toList ++ " me #1".toList) := by
    apply Holds.line
    · decide
    · exact writable
    · intro c first
      rw [begins] at first
      cases first
      decide
    · decide
    · decide
    · decide
    · exact ⟨by decide, List.all_iff_forall_prop.1 (by decide)⟩
    · decide
    · decide
    · decide +kernel
    · decide
  exact parseLine_exact.1 _ _ _ holds

end HostKeyEntry

end Gangway.Ssh
