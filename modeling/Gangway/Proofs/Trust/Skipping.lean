import Gangway.Proofs.Text.Lines
import Gangway.Proofs.Text.Words
import Gangway.Proofs.Trust.Store
import Mathlib.Data.List.Basic

/-!
# One bad line costs one line

A store is read line by line (`parse_accounts`): each line gives an entry, says nothing, or is
reported with its number. So a text behind another one gives what it gives alone, with its lines
counted on (`parse_append`), and lines without entries can stand anywhere (`keysFor_of_idle`).
-/

namespace Gangway.Ssh

namespace HostKeyEntry

/-- What becomes of a line. -/
abbrev Verdict := Except LineFault (Option HostKeyEntry)

/-- The fault of a malformed line. -/
def fault? : Verdict → Option LineFault
  | .error fault => some fault
  | .ok _ => none

/-- The line gives no entry: it is empty, a comment, a marker line or malformed. -/
def Idle (line : List Char) : Prop :=
  isIgnorable (Text.trim line) = true ∨ ∃ fault, parseLine line = .error fault

/-- Blanks at the ends of a line do not matter. -/
theorem parseLine_congr {line other : List Char} (same : Text.trim line = Text.trim other) :
    parseLine line = parseLine other := by
  unfold parseLine
  rw [same]

theorem parseLine_dropReturn (line : List Char) : parseLine (Text.dropReturn line) = parseLine line := by
  rcases Text.dropReturn_eq_or line with same | returned
  · rw [same]
  · have trimmed : Text.trim (Text.dropReturn line ++ ['\r']) = Text.trim (Text.dropReturn line) :=
      Text.trim_concat (by decide) _
    rw [← returned] at trimmed
    exact parseLine_congr trimmed.symm

theorem not_ignorable {line : List Char} (said : parseLine line ≠ .ok none) :
    isIgnorable (Text.trim line) = false := by
  rw [Bool.eq_false_iff]
  intro ignorable
  exact said (parseLine_eq_none_iff.2 ignorable)

theorem Idle.ofLine? {line : List Char} (idle : Idle line) : ofLine? line = none := by
  unfold HostKeyEntry.ofLine?
  rcases idle with ignorable | ⟨fault, malformed⟩
  · rw [parseLine_eq_none_iff.2 ignorable]
    rfl
  · rw [malformed]
    rfl

end HostKeyEntry

namespace TrustStore

open HostKeyEntry (Idle Verdict fault? isIgnorable ofLine? parseLine)

/-! ## Reports -/

/-- The report of a line with its number, if it is malformed. -/
def report? (number : Nat) (verdict : Verdict) : Option (Nat × LineFault) :=
  (fault? verdict).map (number, ·)

/-- The reports of lines that are numbered from the given number on. -/
def reportsFrom (number : Nat) (verdicts : List Verdict) : List (Nat × LineFault) :=
  (verdicts.zipIdx number).filterMap fun numbered => report? numbered.2 numbered.1

theorem reportsFrom_cons (number : Nat) (verdict : Verdict) (verdicts : List Verdict) :
    reportsFrom number (verdict :: verdicts) =
      (report? number verdict).toList ++ reportsFrom (number + 1) verdicts := by
  unfold reportsFrom
  rw [List.zipIdx_cons]
  cases report : report? number verdict with
  | none => simp [report]
  | some given => simp [report]

theorem fst_of_report? {number : Nat} {verdict : Verdict} {report : Nat × LineFault}
    (given : report? number verdict = some report) : report.1 = number := by
  obtain ⟨fault, -, rfl⟩ := Option.map_eq_some_iff.1 given
  rfl

theorem reportsFrom_append (number : Nat) (front back : List Verdict) :
    reportsFrom number (front ++ back) =
      reportsFrom number front ++ reportsFrom (number + front.length) back := by
  unfold reportsFrom
  rw [List.zipIdx_append, List.filterMap_append]

/-- Lines that are numbered later are reported later. -/
theorem reportsFrom_add (number more : Nat) (verdicts : List Verdict) :
    reportsFrom (number + more) verdicts =
      (reportsFrom number verdicts).map fun report => (report.1 + more, report.2) := by
  induction verdicts generalizing number with
  | nil => rfl
  | cons verdict verdicts ih =>
    have next : number + more + 1 = number + 1 + more := by omega
    rw [reportsFrom_cons, reportsFrom_cons, next, ih, List.map_append]
    congr 1
    unfold report?
    cases fault? verdict with
    | none => rfl
    | some fault => rfl

theorem le_of_mem_reportsFrom {number : Nat} {verdicts : List Verdict} {report : Nat × LineFault}
    (member : report ∈ reportsFrom number verdicts) : number ≤ report.1 := by
  obtain ⟨⟨verdict, index⟩, inside, given⟩ := List.mem_filterMap.1 member
  rw [fst_of_report? given]
  exact List.le_snd_of_mem_zipIdx inside

/-- Reports stand in the order of their numbers, and no number is reported twice. -/
theorem pairwise_reportsFrom (number : Nat) (verdicts : List Verdict) :
    (reportsFrom number verdicts).Pairwise fun report later => report.1 < later.1 := by
  induction verdicts generalizing number with
  | nil => exact .nil
  | cons verdict verdicts ih =>
    rw [reportsFrom_cons]
    cases report : report? number verdict with
    | none => exact ih (number + 1)
    | some given =>
      refine .cons ?_ (ih (number + 1))
      intro later member
      have first := fst_of_report? report
      have least := le_of_mem_reportsFrom member
      omega

/-- The reports with a number are those of the line with the number. -/
theorem filter_reportsFrom (number index : Nat) (verdicts : List Verdict) :
    (reportsFrom number verdicts).filter (·.1 == number + index) =
      (verdicts[index]?.bind (report? (number + index))).toList := by
  induction verdicts generalizing number index with
  | nil => rfl
  | cons verdict verdicts ih =>
    rw [reportsFrom_cons, List.filter_append]
    cases index with
    | zero =>
      have later : (reportsFrom (number + 1) verdicts).filter (·.1 == number + 0) = [] := by
        rw [List.filter_eq_nil_iff]
        intro report member
        have least := le_of_mem_reportsFrom member
        rw [beq_iff_eq]
        omega
      -- What is behind the first line has greater numbers, so that only its own report is left.
      rw [later, List.append_nil, List.getElem?_cons_zero, Option.bind_some]
      cases report : report? number verdict with
      | none => simp
      | some given => simp [fst_of_report? report]
    | succ index =>
      have next : number + (index + 1) = number + 1 + index := by omega
      have other : (report? number verdict).toList.filter (·.1 == number + 1 + index) = [] := by
        rw [List.filter_eq_nil_iff]
        intro report member
        have same := fst_of_report? (Option.mem_toList.1 member)
        rw [beq_iff_eq]
        omega
      rw [next, other, List.nil_append, ih, List.getElem?_cons_succ]

theorem addLine_skipped (store : TrustStore) (number : Nat) (line : List Char) :
    (store.addLine number line).skipped =
      store.skipped ++ (report? number (parseLine line)).toList := by
  unfold addLine report?
  cases parseLine line with
  | error fault => rfl
  | ok entry? =>
    cases entry? with
    | none => simp [fault?]
    | some entry => simp [fault?]

theorem addLines_skipped (store : TrustStore) (number : Nat) (lines : List (List Char)) :
    (store.addLines number lines).skipped =
      store.skipped ++ reportsFrom number (lines.map parseLine) := by
  induction lines generalizing store number with
  | nil => simp [addLines, reportsFrom]
  | cons line lines ih =>
    rw [addLines, ih, addLine_skipped, List.map_cons, reportsFrom_cons, List.append_assoc]

theorem parse_skipped (content : String) :
    (parse content).skipped = reportsFrom 1 ((Text.lines content.toList).map parseLine) := by
  rw [parse, addLines_skipped]
  rfl

/-! ## One text behind another -/

/-- A line feed behind a text adds no entry and no report, to what comes of its lines. -/
theorem map_parseLine_lines (text : List Char) :
    (Text.lines (text ++ ['\n'])).map parseLine = (Text.lines text).map parseLine ∨
      (Text.lines (text ++ ['\n'])).map parseLine =
        (Text.lines text).map parseLine ++ [.ok none] :=
  Text.map_lines HostKeyEntry.parseLine_dropReturn text

theorem toList_append_feed (a b : String) :
    (a ++ "\n" ++ b).toList = a.toList ++ '\n' :: b.toList := by
  rw [String.toList_append, String.toList_append, List.append_assoc]
  rfl

/-- The entries of what comes of lines. -/
theorem filterMap_ofLine? (lines : List (List Char)) :
    lines.filterMap ofLine? = (lines.map parseLine).filterMap fun verdict => verdict.toOption.join := by
  rw [List.filterMap_map]
  rfl

/-- A line feed behind a text adds no entry. -/
theorem filterMap_lines_feed (text : List Char) :
    (Text.lines (text ++ ['\n'])).filterMap ofLine? = (Text.lines text).filterMap ofLine? := by
  rw [filterMap_ofLine?, filterMap_ofLine?]
  rcases map_parseLine_lines text with same | longer
  · rw [same]
  · rw [longer, List.filterMap_append]
    simp [Except.toOption]

theorem parse_append_entries (a b : String) :
    (parse (a ++ "\n" ++ b)).entries = (parse a).entries ++ (parse b).entries := by
  rw [parse_entries, parse_entries, parse_entries, toList_append_feed, Text.lines_append a.toList,
    List.filterMap_append, filterMap_lines_feed]

theorem parse_append_skipped (a b : String) :
    (parse (a ++ "\n" ++ b)).skipped = (parse a).skipped ++
      (parse b).skipped.map fun report => (report.1 + (1 + a.toList.count '\n'), report.2) := by
  -- The line that the feed may add is empty, and has no report.
  have front : reportsFrom 1 ((Text.lines (a.toList ++ ['\n'])).map parseLine) =
      reportsFrom 1 ((Text.lines a.toList).map parseLine) := by
    rcases map_parseLine_lines a.toList with same | longer
    · rw [same]
    · have blank (number : Nat) : reportsFrom number [.ok none] = [] := rfl
      rw [longer, reportsFrom_append, blank, List.append_nil]
  have length : ((Text.lines (a.toList ++ ['\n'])).map parseLine).length =
      1 + a.toList.count '\n' := by
    rw [List.length_map, Text.length_lines, Nat.add_comm]
  rw [parse_skipped, parse_skipped, parse_skipped, toList_append_feed, Text.lines_append a.toList,
    List.map_append, reportsFrom_append, front, length, reportsFrom_add]

/-! ## Every line counts once -/

/-- A line is one entry, or says nothing, or is one report. -/
theorem counted_once (number : Nat) (line : List Char) :
    (ofLine? line).toList.length + (isIgnorable (Text.trim line)).toNat +
      (report? number (parseLine line)).toList.length = 1 := by
  unfold ofLine? report?
  cases parsed : parseLine line with
  | error fault =>
    have said : isIgnorable (Text.trim line) = false :=
      HostKeyEntry.not_ignorable (by simp [parsed])
    simp [Except.toOption, fault?, said]
  | ok entry? =>
    cases entry? with
    | none =>
      have ignorable := HostKeyEntry.parseLine_eq_none_iff.1 parsed
      simp [Except.toOption, fault?, ignorable]
    | some entry =>
      have said : isIgnorable (Text.trim line) = false :=
        HostKeyEntry.not_ignorable (by simp [parsed])
      simp [Except.toOption, fault?, said]

theorem length_add_length_add_length (number : Nat) (lines : List (List Char)) :
    (lines.filterMap ofLine?).length + lines.countP (fun line => isIgnorable (Text.trim line)) +
      (reportsFrom number (lines.map parseLine)).length = lines.length := by
  induction lines generalizing number with
  | nil => rfl
  | cons line lines ih =>
    have first := counted_once number line
    have rest := ih (number + 1)
    have entries : (List.filterMap ofLine? (line :: lines)).length =
        (ofLine? line).toList.length + (lines.filterMap ofLine?).length := by
      cases given : ofLine? line with
      | none => simp [given]
      | some entry =>
        simp [given]
        omega
    have ignorable : (line :: lines).countP (fun line => isIgnorable (Text.trim line)) =
        lines.countP (fun line => isIgnorable (Text.trim line)) +
          (isIgnorable (Text.trim line)).toNat := by
      rw [List.countP_cons]
      cases isIgnorable (Text.trim line) with
      | false => rfl
      | true => rfl
    rw [entries, ignorable, List.map_cons, reportsFrom_cons, List.length_append, List.length_cons]
    omega

/-- What a store has of lines: the entries and the reports of these lines, in their order, and
nothing else. -/
structure Accounts (lines : List (List Char)) (store : TrustStore) : Prop where
  /-- The entries are those of the lines, in order. -/
  entries : store.entries = lines.filterMap ofLine?
  /-- A report has the number of a malformed line, counted from one, and its fault. -/
  reported : ∀ number fault, (number, fault) ∈ store.skipped ↔
    ∃ index line, lines[index]? = some line ∧ parseLine line = .error fault ∧ number = index + 1
  /-- A line is one entry, or ignorable, or one report. -/
  once : ∀ index line, lines[index]? = some line →
    (ofLine? line).toList.length + (isIgnorable (Text.trim line)).toNat +
      (store.skipped.filter (·.1 == index + 1)).length = 1
  increasing : store.skipped.Pairwise fun report later => report.1 < later.1
  total : store.entries.length + lines.countP (fun line => isIgnorable (Text.trim line)) +
    store.skipped.length = lines.length

theorem fault?_eq_some_iff {verdict : Verdict} {fault : LineFault} :
    fault? verdict = some fault ↔ verdict = .error fault := by
  cases verdict with
  | error given => simp [fault?]
  | ok entry? => simp [fault?]

theorem mem_reportsFrom {number : Nat} {fault : LineFault} {lines : List (List Char)} :
    (number, fault) ∈ reportsFrom 1 (lines.map parseLine) ↔
      ∃ index line, lines[index]? = some line ∧ parseLine line = .error fault ∧
        number = index + 1 := by
  constructor
  · intro member
    obtain ⟨⟨verdict, place⟩, inside, given⟩ := List.mem_filterMap.1 member
    obtain ⟨found, known, same⟩ := Option.map_eq_some_iff.1 given
    cases same
    obtain ⟨least, there⟩ := List.mk_mem_zipIdx_iff_le_and_getElem?_sub.1 inside
    rw [List.getElem?_map] at there
    obtain ⟨line, present, rfl⟩ := Option.map_eq_some_iff.1 there
    exact ⟨place - 1, line, present, fault?_eq_some_iff.1 known, by omega⟩
  · rintro ⟨index, line, present, malformed, rfl⟩
    refine List.mem_filterMap.2 ⟨(parseLine line, index + 1), ?_, ?_⟩
    · rw [List.mk_mem_zipIdx_iff_le_and_getElem?_sub, List.getElem?_map]
      simp [present]
    · rw [report?, malformed]
      rfl

theorem parse_accounts (content : String) :
    Accounts (Text.lines content.toList) (parse content) := by
  have skipped := parse_skipped content
  constructor
  case entries => exact parse_entries content
  case reported =>
    intro number fault
    rw [skipped]
    exact mem_reportsFrom
  case once =>
    intro index line present
    have own : (parse content).skipped.filter (·.1 == index + 1) =
        (report? (1 + index) (parseLine line)).toList := by
      rw [skipped, Nat.add_comm, filter_reportsFrom, List.getElem?_map, present]
      rfl
    rw [own]
    exact counted_once (1 + index) line
  case increasing =>
    rw [skipped]
    exact pairwise_reportsFrom 1 _
  case total =>
    rw [skipped, parse_entries]
    exact length_add_length_add_length 1 _

/-! ## Lines without entries -/

/-- Lines without entries can stand anywhere. -/
theorem entries_of_idle {content padded : String} {before extra after : List (List Char)}
    (lines : Text.lines content.toList = before ++ after)
    (longer : Text.lines padded.toList = before ++ extra ++ after)
    (idle : ∀ line ∈ extra, Idle line) : (parse padded).entries = (parse content).entries := by
  have none : extra.filterMap ofLine? = [] := by
    rw [List.filterMap_eq_nil_iff]
    intro line member
    exact (idle line member).ofLine?
  rw [parse_entries, parse_entries, lines, longer, List.filterMap_append, List.filterMap_append,
    none, List.append_nil, List.filterMap_append]

/-- **One bad line costs one line.** A text behind another one gives what it gives alone, with its
lines counted on; every line is accounted for once; and lines without entries, wherever they are put
in or taken out, change no key. -/
theorem parse_line_by_line :
    (∀ a b : String,
      (parse (a ++ "\n" ++ b)).entries = (parse a).entries ++ (parse b).entries ∧
      (parse (a ++ "\n" ++ b)).skipped = (parse a).skipped ++
        (parse b).skipped.map fun report => (report.1 + (1 + a.toList.count '\n'), report.2)) ∧
    (∀ content : String, Accounts (Text.lines content.toList) (parse content)) ∧
    ∀ (content padded : String) (before extra after : List (List Char)),
      Text.lines content.toList = before ++ after →
      Text.lines padded.toList = before ++ extra ++ after → (∀ line ∈ extra, Idle line) →
      ∀ hostname port, (parse padded).keysFor hostname port = (parse content).keysFor hostname port := by
  refine ⟨?_, parse_accounts, ?_⟩
  · intro a b
    exact ⟨parse_append_entries a b, parse_append_skipped a b⟩
  · intro content padded before extra after lines longer idle hostname port
    unfold keysFor
    rw [entries_of_idle lines longer idle]

/-- A malformed line in front of a bastion's. -/
theorem parse_line_by_line_garbage :
    (parse "garbage\r\nbastion a@b AAAAA2FAYgAAAAEH").keysFor "bastion" 22 =
      [.other "a@b" [7]] := by
  have idle : ∀ line ∈ ["garbage".toList], Idle line := by
    intro line member
    rw [List.mem_singleton.1 member]
    exact .inr ⟨.missingFields, by decide⟩
  have same := parse_line_by_line.2.2 "bastion a@b AAAAA2FAYgAAAAEH"
    "garbage\r\nbastion a@b AAAAA2FAYgAAAAEH" [] ["garbage".toList]
    ["bastion a@b AAAAA2FAYgAAAAEH".toList] (by decide) (by decide) idle "bastion" 22
  rw [same]
  decide +kernel

end TrustStore

end Gangway.Ssh
