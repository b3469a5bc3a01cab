import Gangway.Proofs.Text.Letters
import Gangway.Proofs.Trust.Patterns
import Gangway.Proofs.Trust.Skipping

/-!
# Letter case in trust stores

The case of ASCII letters is dropped from a pattern when it is read, and from a host name when it is
looked up. So two stores that differ in no more than the case of letters in patterns, other than in
hashed ones, hold the same entries (`Recased.entries_eq`), and give the same keys for host names that
are alike up to case (`keysFor_caseless`).
-/

namespace Gangway.Ssh

open Gangway.Text (AlikeInCase AllBlank Caseless EndsWord IsWord SameLetter isBlank lower pieces)

/-! ## Patterns -/

namespace HostPattern

/-- The same text for a pattern, but for the case of letters if it is no hashed one. -/
inductive Recased : List Char → List Char → Prop where
  | same (text : List Char) : Recased text text
  | unhashed {text other : List Char} (plain : ¬ hashMark <+: text)
      (alike : AlikeInCase text other) : Recased text other

theorem Recased.alike {text other : List Char} (recased : Recased text other) :
    AlikeInCase text other := by
  cases recased with
  | same => exact .refl text
  | unhashed _ alike => exact alike

theorem ofName_congr {text other : List Char} (alike : AlikeInCase text other) (negated : Bool) :
    ofName negated text = ofName negated other := by
  have empty : text.isEmpty = other.isEmpty := by cases alike <;> rfl
  rw [ofName, ofName, empty, Text.lower_eq_lower_iff.2 alike]

theorem caseless_hashMark : ∀ c ∈ hashMark, Caseless c := by
  have all : (hashMark.all fun c => decide (Caseless c)) = true := by decide
  exact fun c member => of_decide_eq_true (List.all_eq_true.1 all c member)

/-- A pattern is read without regard to case. -/
theorem Recased.parse_eq {text other : List Char} (recased : Recased text other) :
    parse text = parse other := by
  cases recased with
  | same => rfl
  | unhashed plain alike =>
    have plain' : ¬ hashMark <+: other := mt (alike.isPrefix_iff caseless_hashMark).2 plain
    have mark : ['!'] <+: text ↔ ['!'] <+: other :=
      alike.isPrefix_iff (List.forall_mem_singleton.2 (by decide))
    by_cases negated : ['!'] <+: text
    · obtain ⟨rest, rfl⟩ := negated
      obtain ⟨rest', rfl⟩ := mark.1 (List.prefix_append ['!'] rest)
      have behind : AlikeInCase rest rest' := (List.forall₂_cons.1 alike).2
      rw [List.singleton_append, List.singleton_append, parse_negated, parse_negated]
      exact ofName_congr behind true
    · rw [parse_positive plain negated, parse_positive plain' (mt mark.2 negated)]
      exact ofName_congr alike false

end HostPattern

/-! ## Lines -/

namespace HostKeyEntry

open HostPattern (hashMark)

/-- The same line, but for the case of letters in patterns of its first field. -/
inductive Recased : List Char → List Char → Prop where
  | line {lead hosts hosts' rest : List Char} (lead_blank : AllBlank lead)
      (solid : ∀ c ∈ hosts, isBlank c = false) (ends : EndsWord rest)
      (patterns : List.Forall₂ HostPattern.Recased (pieces ',' hosts) (pieces ',' hosts')) :
      Recased (lead ++ hosts ++ rest) (lead ++ hosts' ++ rest)

theorem parsePatterns_congr {hosts hosts' : List Char}
    (patterns : List.Forall₂ HostPattern.Recased (pieces ',' hosts) (pieces ',' hosts')) :
    parsePatterns hosts = parsePatterns hosts' := by
  unfold parsePatterns
  generalize pieces ',' hosts = texts at patterns ⊢
  generalize pieces ',' hosts' = texts' at patterns ⊢
  induction patterns with
  | nil => rfl
  | cons here _ ih => rw [List.mapM_cons, List.mapM_cons, here.parse_eq, ih]

theorem alikeInCase_of_recased {hosts hosts' : List Char}
    (patterns : List.Forall₂ HostPattern.Recased (pieces ',' hosts) (pieces ',' hosts')) :
    AlikeInCase hosts hosts' := by
  have between : AlikeInCase ([','].intercalate (pieces ',' hosts))
      ([','].intercalate (pieces ',' hosts')) :=
    AlikeInCase.intercalate (patterns.imp fun _ _ recased => recased.alike)
  rwa [Text.pieces_eq_splitOn, Text.pieces_eq_splitOn, List.intercalate_splitOn,
    List.intercalate_splitOn] at between

theorem isBlank_congr {c d : Char} (same : SameLetter c d) : isBlank c = isBlank d := by
  have all : ∀ forms ∈ Text.letterForms, isBlank forms.1 = false ∧ isBlank forms.2 = false := by
    decide
  rcases same with rfl | listed | listed
  · rfl
  · exact (all _ listed).1.trans (all _ listed).2.symm
  · exact (all _ listed).2.trans (all _ listed).1.symm

theorem isWord_congr {hosts hosts' : List Char} (alike : AlikeInCase hosts hosts')
    (whole : IsWord hosts) : IsWord hosts' := by
  obtain ⟨filled, solid⟩ := whole
  constructor
  · rintro rfl
    cases alike
    exact filled rfl
  · clear filled
    induction alike with
    | nil => exact nofun
    | cons here _ ih =>
      obtain ⟨first, others⟩ := List.forall_mem_cons.1 solid
      exact List.forall_mem_cons.2 ⟨isBlank_congr here ▸ first, ih others⟩

/-- Whether a line says nothing is seen at the beginning of its first word. -/
theorem isIgnorable_trim {lead hosts : List Char} (lead_blank : AllBlank lead)
    (whole : IsWord hosts) (rest : List Char) :
    isIgnorable (Text.trim (lead ++ hosts ++ rest)) = isIgnorable hosts := by
  obtain ⟨c, more, rfl⟩ := List.exists_cons_of_ne_nil whole.filled
  have solid := whole.solid c List.mem_cons_self
  obtain ⟨trimmed, same⟩ := Text.exists_trim lead_blank solid (more ++ rest)
  rw [List.append_assoc, List.cons_append, same]
  rfl

theorem isIgnorable_congr {hosts hosts' : List Char} (alike : AlikeInCase hosts hosts') :
    isIgnorable hosts = isIgnorable hosts' := by
  cases alike with
  | nil => rfl
  | @cons c d _ _ here _ =>
    have comment : c = '#' ↔ d = '#' := here.eq_iff (by decide)
    have marker : c = '@' ↔ d = '@' := here.eq_iff (by decide)
    simp only [isIgnorable, comment, marker]

theorem parseLine_congr_words {line line' hosts hosts' : List Char} {more : List (List Char)}
    (ignorable : isIgnorable (Text.trim line) = isIgnorable (Text.trim line'))
    (words : Text.words line = hosts :: more) (words' : Text.words line' = hosts' :: more)
    (patterns : parsePatterns hosts = parsePatterns hosts') : parseLine line = parseLine line' := by
  unfold parseLine
  simp only [ignorable, Text.words_trim, words, words']
  match more with
  | [] => rfl
  | [_] => rfl
  | _ :: key :: _ => simp only [patterns]

/-- A line is read without regard to case in its patterns. -/
theorem Recased.parseLine_eq {line line' : List Char} (recased : Recased line line') :
    parseLine line = parseLine line' := by
  cases recased with
  | @line lead hosts hosts' rest lead_blank solid ends patterns =>
    have alike := alikeInCase_of_recased patterns
    by_cases empty : hosts = []
    · subst empty
      cases alike
      rfl
    · have whole : IsWord hosts := ⟨empty, solid⟩
      have whole' : IsWord hosts' := isWord_congr alike whole
      have words {word : List Char} (whole : IsWord word) :
          Text.words (lead ++ word ++ rest) = word :: Text.words rest := by
        rw [List.append_assoc, Text.words_blanks_append lead_blank,
          Text.words_word_append whole ends]
      apply parseLine_congr_words _ (words whole) (words whole') (parsePatterns_congr patterns)
      rw [isIgnorable_trim lead_blank whole, isIgnorable_trim lead_blank whole',
        isIgnorable_congr alike]

end HostKeyEntry

/-! ## Stores -/

theorem lookupName_congr {hostname hostname' : String}
    (alike : AlikeInCase hostname.toList hostname'.toList) (port : UInt16) :
    lookupName hostname port = lookupName hostname' port := by
  unfold lookupName
  rw [Text.lowerString_eq_lowerString_iff.2 alike]

namespace TrustStore

open HostKeyEntry (ofLine? parseLine)

/-- The same text, but for the case of letters in the patterns of its lines that are not hashed. -/
def Recased (content other : String) : Prop :=
  List.Forall₂ HostKeyEntry.Recased (pieces '\n' content.toList) (pieces '\n' other.toList)

/-- The entries of a text are those of what stands between its line feeds. -/
theorem parse_entries_pieces (content : String) :
    (parse content).entries = (pieces '\n' content.toList).filterMap ofLine? := by
  have returned : ((pieces '\n' content.toList).map Text.dropReturn).filterMap ofLine? =
      (pieces '\n' content.toList).filterMap ofLine? := by
    rw [filterMap_ofLine?, filterMap_ofLine?, List.map_map]
    congr 2
    exact funext HostKeyEntry.parseLine_dropReturn
  rw [parse_entries, ← filterMap_lines_feed, Text.lines_eq_map, returned]

theorem Recased.entries_eq {content other : String} (recased : Recased content other) :
    (parse content).entries = (parse other).entries := by
  rw [parse_entries_pieces, parse_entries_pieces, filterMap_ofLine?, filterMap_ofLine?]
  congr 1
  rw [← List.forall₂_eq_eq_eq, List.forall₂_map_left_iff, List.forall₂_map_right_iff]
  exact recased.imp fun _ _ line => line.parseLine_eq

/-- **Host names are matched without regard to case.** Stores that differ in no more than the case of
letters in patterns that are not hashed give the same keys for host names that are alike up to
case. -/
theorem keysFor_caseless (content other hostname hostname' : String)
    (recased : Recased content other)
    (alike : AlikeInCase hostname.toList hostname'.toList) (port : UInt16) :
    (parse content).keysFor hostname port = (parse other).keysFor hostname' port := by
  unfold keysFor
  rw [recased.entries_eq, lookupName_congr alike]

/-- A line with a domain and a host taken out of it, and a line with a hashed name. -/
def mixedStore : String :=
  "*.Lan,!DB.lan a@b AAAAA2FAYgAAAAEH\n" ++
    "Gate,|1|AQI=|OcAc3l1yifdq2UGP1KEToV/plc0= a@b AAAAA2FAYgAAAAEI"

/-- The same, with other letters in the names. -/
def otherStore : String :=
  "*.LAN,!db.Lan a@b AAAAA2FAYgAAAAEH\n" ++
    "gATE,|1|AQI=|OcAc3l1yifdq2UGP1KEToV/plc0= a@b AAAAA2FAYgAAAAEI"

theorem recased_mixedStore : Recased mixedStore otherStore := by
  have mixed : pieces '\n' mixedStore.toList =
      [[] ++ "*.Lan,!DB.lan".toList ++ " a@b AAAAA2FAYgAAAAEH".toList,
        [] ++ "Gate,|1|AQI=|OcAc3l1yifdq2UGP1KEToV/plc0=".toList ++
          " a@b AAAAA2FAYgAAAAEI".toList] := by
    decide +kernel
  have other : pieces '\n' otherStore.toList =
      [[] ++ "*.LAN,!db.Lan".toList ++ " a@b AAAAA2FAYgAAAAEH".toList,
        [] ++ "gATE,|1|AQI=|OcAc3l1yifdq2UGP1KEToV/plc0=".toList ++
          " a@b AAAAA2FAYgAAAAEI".toList] := by
    decide +kernel
  have named {text text' : List Char} (plain : ¬ HostPattern.hashMark <+: text)
      (same : lower text = lower text') : HostPattern.Recased text text' :=
    .unhashed plain (Text.lower_eq_lower_iff.1 same)
  have domain : HostPattern.Recased "*.Lan".toList "*.LAN".toList := named (by decide) (by decide)
  have host : HostPattern.Recased "!DB.lan".toList "!db.Lan".toList := named (by decide) (by decide)
  have gate : HostPattern.Recased "Gate".toList "gATE".toList := named (by decide) (by decide)
  have solid {hosts : List Char} (whole : hosts.any isBlank = false) :
      ∀ c ∈ hosts, isBlank c = false := by
    simpa using whole
  unfold Recased
  rw [mixed, other]
  refine .cons ?_ (.cons ?_ .nil)
  · exact .line (by decide) (solid (by decide)) (by decide) (.cons domain (.cons host .nil))
  · exact .line (by decide) (solid (by decide)) (by decide) (.cons gate (.cons (.same _) .nil))

/-- A bastion that the hashed name belongs to is found under another spelling of its name. -/
theorem keysFor_caseless_bastion :
    (parse mixedStore).keysFor "Bastion" 22 = (parse otherStore).keysFor "bASTION" 22 := by
  have alike : AlikeInCase "Bastion".toList "bASTION".toList :=
    Text.lower_eq_lower_iff.1 (by decide)
  exact keysFor_caseless mixedStore otherStore "Bastion" "bASTION" recased_mixedStore alike 22

end TrustStore

end Gangway.Ssh
