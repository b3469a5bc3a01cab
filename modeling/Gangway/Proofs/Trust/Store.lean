import Gangway.Ssh.TrustStore

/-!
# What a trust store keeps of a text

Lines count one by one: the entries of a text are those of its lines that give one, in order,
whatever other lines stand between them (`parse_entries`). So the keys of a host are exactly the
keys that some line vouches for (`mem_keysFor_parse`).
-/

namespace Gangway.Ssh

/-- The entry that a line gives, if it gives one. -/
def HostKeyEntry.ofLine? (line : List Char) : Option HostKeyEntry :=
  (HostKeyEntry.parseLine line).toOption.join

/-- Some line of the text parses to an entry that applies to the lookup name and holds the key. -/
def Vouches (content lookup : String) (key : PublicKey) : Prop :=
  ∃ line ∈ Text.lines content.toList, ∃ entry, HostKeyEntry.parseLine line = .ok (some entry) ∧
    entry.applies lookup = true ∧ entry.key = key

theorem HostKeyEntry.ofLine?_eq_some_iff {line : List Char} {entry : HostKeyEntry} :
    ofLine? line = some entry ↔ parseLine line = .ok (some entry) := by
  unfold ofLine?
  cases parsed : parseLine line with
  | error fault => simp [Except.toOption]
  | ok entry? => simp [Except.toOption]

/-- A line says nothing exactly if it is empty, a comment or a marker line once trimmed. -/
theorem HostKeyEntry.parseLine_eq_none_iff {line : List Char} :
    parseLine line = .ok none ↔ isIgnorable (Text.trim line) = true := by
  unfold parseLine
  dsimp only
  constructor
  · intro none
    split at none
    case isTrue ignorable => exact ignorable
    case isFalse =>
      split at none
      · split at none
        · cases none
        · split at none
          · cases none
          · cases none
      · cases none
  · intro ignorable
    rw [if_pos ignorable]

namespace TrustStore

theorem addLine_entries (store : TrustStore) (number : Nat) (line : List Char) :
    (store.addLine number line).entries =
      store.entries ++ (HostKeyEntry.ofLine? line).toList := by
  unfold addLine HostKeyEntry.ofLine?
  cases parsed : HostKeyEntry.parseLine line with
  | error fault => simp [Except.toOption]
  | ok entry? =>
    cases entry? with
    | none => simp [Except.toOption]
    | some entry => simp [Except.toOption]

/-- The numbers of lines are only for reports: they do not show in the entries. -/
theorem addLines_entries (store : TrustStore) (number : Nat) (lines : List (List Char)) :
    (store.addLines number lines).entries =
      store.entries ++ lines.filterMap HostKeyEntry.ofLine? := by
  induction lines generalizing store number with
  | nil => simp [addLines]
  | cons line rest ih =>
    rw [addLines, ih, addLine_entries, List.append_assoc]
    congr 1
    cases given : HostKeyEntry.ofLine? line with
    | none => rw [List.filterMap_cons_none given]; rfl
    | some entry => rw [List.filterMap_cons_some given]; rfl

theorem parse_entries (content : String) :
    (parse content).entries = (Text.lines content.toList).filterMap HostKeyEntry.ofLine? := by
  rw [parse, addLines_entries]
  rfl

/-- The keys of a host are exactly those that some line vouches for. -/
theorem mem_keysFor_parse {content hostname : String} {port : UInt16} {key : PublicKey} :
    key ∈ (parse content).keysFor hostname port ↔
      Vouches content (lookupName hostname port) key := by
  rw [keysFor, parse_entries]
  constructor
  · intro h
    obtain ⟨entry, kept, rfl⟩ := List.mem_map.1 h
    obtain ⟨found, applies⟩ := List.mem_filter.1 kept
    obtain ⟨line, present, given⟩ := List.mem_filterMap.1 found
    exact ⟨line, present, entry, HostKeyEntry.ofLine?_eq_some_iff.1 given, applies, rfl⟩
  · rintro ⟨line, present, entry, parsed, applies, rfl⟩
    have given := HostKeyEntry.ofLine?_eq_some_iff.2 parsed
    have found := List.mem_filterMap.2 ⟨line, present, given⟩
    exact List.mem_map.2 ⟨entry, List.mem_filter.2 ⟨found, applies⟩, rfl⟩

/-- A host has no keys exactly when no line vouches for one. -/
theorem keysFor_parse_eq_nil_iff {content hostname : String} {port : UInt16} :
    (parse content).keysFor hostname port = [] ↔
      ∀ key, ¬ Vouches content (lookupName hostname port) key := by
  simp only [List.eq_nil_iff_forall_not_mem, mem_keysFor_parse]

end TrustStore

/-- Only the set of lines counts for what a text vouches for: neither their order nor how often a
line stands there. -/
theorem Vouches.congr_lines {content content' : String}
    (same : ∀ line, line ∈ Text.lines content.toList ↔ line ∈ Text.lines content'.toList)
    (lookup : String) (key : PublicKey) :
    Vouches content lookup key ↔ Vouches content' lookup key := by
  unfold Vouches
  simp only [same]

end Gangway.Ssh
