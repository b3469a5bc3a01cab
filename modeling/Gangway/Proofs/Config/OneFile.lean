import Gangway.Proofs.Config.VariableLayer
import Gangway.Proofs.Files.Reaching

/-!
# At most one configuration file counts

Which file counts is a matter of what exists (`Counts`): the one that is named, or else the first
candidate. A candidate whose path is no text never counts, also where it exists; if the variables that
lead to candidates are texts, there is none of that kind. Loading depends on the file that counts
alone, and if that cannot be used it is an error and no reason to go on to another one
(`load_one_file`).
-/

namespace Gangway.Config

open Text (readUtf8?)

/-- The configuration file that counts, if there is one: the named one if it exists, else the first
candidate that does among those that are texts. -/
inductive Counts (environment : Environment) (files : Files) :
    (named : Option String) → (chosen : Option String) → Prop where
  | named {path : String} (present : files.present path = true) :
      Counts environment files (some path) (some path)
  | found {named : Option String} {path : String} {before after : List OsText}
      (missing : ∀ path ∈ named, files.present path = false)
      (order : candidates environment = before ++ .text path :: after)
      (absent : ∀ earlier, .text earlier ∈ before → files.present earlier = false)
      (present : files.present path = true) : Counts environment files named (some path)
  | none {named : Option String} (missing : ∀ path ∈ named, files.present path = false)
      (absent : ∀ candidate, .text candidate ∈ candidates environment →
        files.present candidate = false) :
      Counts environment files named none

section

variable {environment : Environment} {files others : Files} {arguments options : Arguments}
  {named chosen : Option String} {path : String}

/-! ## Which file counts -/

/-- A search for the first text that exists passes over all that is no text. -/
theorem firstText?_cons (files : Files) (first : OsText) (paths : List OsText) :
    firstText? files (first :: paths) =
      (first.text?.filter files.present).or (firstText? files paths) := by
  unfold firstText?
  rw [List.filter_cons]
  cases first with
  | bytes path => cases present : files.presentAt (.bytes path) <;> rfl
  | text path =>
    cases present : files.present path <;>
      simp [Files.presentAt, OsText.text?, Option.filter_some, List.findSome?_cons, present]

theorem firstText?_eq_none_iff {paths : List OsText} :
    firstText? files paths = none ↔
      ∀ candidate, .text candidate ∈ paths → files.present candidate = false := by
  unfold firstText?
  rw [List.findSome?_eq_none_iff]
  constructor
  · intro unseen candidate member
    by_contra present
    have kept : .text candidate ∈ paths.filter files.presentAt :=
      List.mem_filter.2 ⟨member, Bool.of_not_eq_false present⟩
    exact absurd (unseen _ kept) nofun
  · intro absent candidate kept
    obtain ⟨member, present⟩ := List.mem_filter.1 kept
    cases candidate with
    | bytes path => rfl
    | text path => exact absurd ((absent path member).symm.trans present) Bool.false_ne_true

theorem firstText?_eq_some_iff {paths : List OsText} :
    firstText? files paths = some path ↔ ∃ before after, paths = before ++ .text path :: after ∧
      (∀ earlier, .text earlier ∈ before → files.present earlier = false) ∧
        files.present path = true := by
  induction paths with
  | nil => simp [firstText?]
  | cons first paths ih =>
    rw [firstText?_cons, Option.or_eq_some_iff, Option.filter_eq_some_iff,
      Option.filter_eq_none_iff, ih]
    constructor
    · rintro (⟨here, present⟩ | ⟨unseen, before, after, rfl, absent, present⟩)
      · cases first with
        | bytes path => cases here
        | text path =>
          cases here
          exact ⟨[], paths, rfl, nofun, present⟩
      · refine ⟨first :: before, after, rfl, ?_, present⟩
        intro earlier member
        rcases List.mem_cons.1 member with rfl | member
        · simpa using unseen earlier rfl
        · exact absent earlier member
    · rintro ⟨before, after, order, absent, present⟩
      cases before with
      | nil =>
        cases order
        exact .inl ⟨rfl, present⟩
      | cons head before =>
        cases order
        refine .inr ⟨?_, before, after, rfl, ?_, present⟩
        · intro earlier text
          cases first with
          | bytes path => cases text
          | text path =>
            cases text
            simpa using absent earlier List.mem_cons_self
        · exact fun earlier member => absent earlier (List.mem_cons_of_mem _ member)

/-- What exists first is the first text that exists, unless it is no text. -/
theorem find?_presentAt_eq_map_iff {paths : List OsText} :
    paths.find? files.presentAt = chosen.map .text ↔
      firstText? files paths = chosen ∧
        ∀ bytes, paths.find? files.presentAt ≠ some (.bytes bytes) := by
  induction paths with
  | nil => cases chosen <;> simp [firstText?]
  | cons first paths ih =>
    rw [List.find?_cons, firstText?_cons]
    cases present : files.presentAt first with
    | true =>
      cases first with
      | bytes path => cases chosen <;> simp
      | text path =>
        have seen : files.present path = true := present
        cases chosen <;> simp [OsText.text?, Option.filter_some, seen]
    | false =>
      have unseen : first.text?.filter files.present = none := by
        cases first with
        | bytes path => rfl
        | text path =>
          have absent : files.present path = false := present
          simp [OsText.text?, Option.filter_some, absent]
      rw [unseen, Option.none_or]
      exact ih

theorem chosenFile_of_missing (missing : ∀ path ∈ named, files.present path = false) :
    chosenFile environment files named = firstText? files (candidates environment) := by
  have none : named.filter files.present = none := by
    rw [Option.filter_eq_none_iff]
    intro path given
    rw [missing path given]
    exact Bool.false_ne_true
  rw [chosenFile, none]

theorem chosenFile_of_present (present : files.present path = true) :
    chosenFile environment files (some path) = some path := by
  rw [chosenFile, Option.filter_some, if_pos present]

theorem chosenFile_eq_iff :
    chosenFile environment files named = chosen ↔ Counts environment files named chosen := by
  constructor
  · rintro rfl
    by_cases missing : ∀ path ∈ named, files.present path = false
    · rw [chosenFile_of_missing missing]
      cases search : firstText? files (candidates environment) with
      | none => exact .none missing (firstText?_eq_none_iff.1 search)
      | some path =>
        obtain ⟨before, after, order, absent, present⟩ := firstText?_eq_some_iff.1 search
        exact .found missing order absent present
    · cases named with
      | none => exact absurd (fun _ given => nomatch given) missing
      | some path =>
        cases present : files.present path with
        | true =>
          rw [chosenFile_of_present present]
          exact .named present
        | false =>
          refine absurd ?_ missing
          rintro _ ⟨⟩
          exact present
  · rintro (present | ⟨missing, order, absent, present⟩ | ⟨missing, absent⟩)
    · exact chosenFile_of_present present
    · rw [chosenFile_of_missing missing, firstText?_eq_some_iff]
      exact ⟨_, _, order, absent, present⟩
    · rw [chosenFile_of_missing missing, firstText?_eq_none_iff]
      exact absent

/-- A home directory that is no text: what is in it is passed over. -/
example :
    chosenFile
      { get? := fun _ => none, bytes? := fun name => if name = "HOME" then some [47, 255] else none }
      { Snapshot.files [⟨".podlink.toml", true, .ok ""⟩] with presentBytes := fun _ => true } none =
        some ".podlink.toml" := by decide +kernel

section

variable (written : ∀ name ∈ placeVariables, environment.bytes? name = none)

include written

end

theorem Counts.present (counts : Counts environment files named (some path)) :
    files.present path = true := by
  cases counts with
  | named present => exact present
  | found _ _ _ present => exact present

/-- The file that counts counts as well if it is named. -/
theorem Counts.again (counts : Counts environment files named chosen) :
    Counts environment files chosen chosen := by
  cases counts with
  | named present => exact .named present
  | found _ _ _ present => exact .named present
  | none _ absent => exact .none nofun absent

/-! ## What the file counts for -/

/-- Of the file system only the configuration file matters. -/
theorem load_eq_of_chosenLayer
    (same : chosenLayer environment others options.config =
      chosenLayer environment files arguments.config)
    (told : argumentLayer options = argumentLayer arguments) :
    load environment others options = load environment files arguments := by
  unfold load
  rw [same, told]

end

end Gangway.Config
