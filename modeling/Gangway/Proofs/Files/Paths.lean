import Gangway.OsText
import Gangway.Proofs.Text.Cutting
import Gangway.Proofs.Text.Utf8

/-!
# The directory and the name of a path

A path with a last name is its directory and that name (`parts_of_fileName`); one without a last
name goes up at its end, or names nothing at all (`parts_of_no_fileName`). Seen from a directory, a
relative path is written behind a slash (`exists_under`), also where the directory is no text.
-/

namespace Gangway.Path

/-- The segment leads somewhere: it is neither empty nor a dot. -/
def leads (segment : List Char) : Bool := !(segment.isEmpty || segment = ['.'])

/-- The segments of a path that lead somewhere. -/
def parts (path : String) : List (List Char) := (segments path).filter leads

theorem leads_eq_false_iff {segment : List Char} :
    leads segment = false ↔ segment = [] ∨ segment = ['.'] := by
  simp only [leads, Bool.not_eq_false', Bool.or_eq_true, List.isEmpty_iff, decide_eq_true_eq]

/-! ## The segments that name something -/

/-- What is dropped behind the last segment that names something leads nowhere. -/
theorem exists_dropUnnamedFrom (index : Nat) (all : List (List Char)) :
    ∃ blanks, all = dropUnnamed.dropUnnamedFrom (index + 1) all ++ blanks ∧
      (∀ blank ∈ blanks, leads blank = false) ∧
      ∀ last ∈ (dropUnnamed.dropUnnamedFrom (index + 1) all).getLast?, leads last = true := by
  induction all generalizing index with
  | nil => exact ⟨[], rfl, by simp, by simp [dropUnnamed.dropUnnamedFrom]⟩
  | cons segment rest ih =>
    obtain ⟨blanks, split, blank, ends⟩ := ih (index + 1)
    rw [dropUnnamed.dropUnnamedFrom]
    split
    case h_1 none =>
      rw [none, List.nil_append] at split
      have same : names (index + 1) segment = leads segment := by
        simp [names, leads, Bool.not_or]
      rw [same]
      split
      case isTrue leading =>
        refine ⟨rest, rfl, ?_, by simpa using leading⟩
        rwa [split]
      case isFalse nowhere =>
        refine ⟨segment :: rest, rfl, ?_, by simp⟩
        rw [split]
        exact List.forall_mem_cons.2 ⟨Bool.eq_false_iff.2 nowhere, blank⟩
    case h_2 more some =>
      refine ⟨blanks, congrArg (segment :: ·) split, blank, ?_⟩
      rw [List.getLast?_cons_of_ne_nil some]
      exact ends

theorem exists_dropUnnamed (all : List (List Char)) :
    ∃ blanks, all = dropUnnamed all ++ blanks ∧ (∀ blank ∈ blanks, leads blank = false) ∧
      ∀ last ∈ (dropUnnamed all).getLast?,
        leads last = true ∨ last = ['.'] ∧ dropUnnamed all = [['.']] := by
  cases all with
  | nil => exact ⟨[], rfl, by simp, by simp [dropUnnamed]⟩
  | cons segment rest =>
    obtain ⟨blanks, split, blank, ends⟩ := exists_dropUnnamedFrom 0 rest
    rw [dropUnnamed]
    split
    case h_1 none =>
      rw [none, List.nil_append] at split
      by_cases empty : segment = []
      · refine ⟨segment :: rest, by simp [names, empty], ?_, by simp [names, empty]⟩
        rw [split]
        exact List.forall_mem_cons.2 ⟨leads_eq_false_iff.2 (.inl empty), blank⟩
      · refine ⟨rest, by simp [names, empty], by rwa [split], ?_⟩
        rw [if_pos (by simp [names, empty])]
        rintro last ⟨⟩
        by_cases dot : segment = ['.']
        · exact .inr ⟨dot, by rw [dot]⟩
        · exact .inl (by simp [leads, empty, dot])
    case h_2 more some =>
      refine ⟨blanks, congrArg (segment :: ·) split, blank, ?_⟩
      rw [List.getLast?_cons_of_ne_nil some]
      exact fun last found => .inl (ends last found)

/-- Dropping changes nothing about where a path leads. -/
theorem filter_leads_dropUnnamed (all : List (List Char)) :
    (dropUnnamed all).filter leads = all.filter leads := by
  obtain ⟨blanks, split, blank, -⟩ := exists_dropUnnamed all
  have nowhere : blanks.filter leads = [] := List.filter_eq_nil_iff.2 fun segment member => by
    rw [blank segment member]
    exact Bool.false_ne_true
  conv => rhs; rw [split, List.filter_append, nowhere, List.append_nil]

theorem slash_not_mem_segments {path : String} {segment : List Char}
    (member : segment ∈ segments path) : '/' ∉ segment := by
  intro slash
  have plain := (Text.mem_of_mem_piecesBy member slash).2
  cases plain

/-- A path is absolute where its first segment is empty and others follow. -/
theorem isAbsolute_iff_segments {path : String} :
    isAbsolute path = true ↔ ∃ rest, segments path = [] :: rest ∧ rest ≠ [] := by
  unfold isAbsolute segments
  cases path.toList with
  | nil => simp [Text.pieces, Text.piecesBy]
  | cons c text =>
    rw [Text.pieces, Text.piecesBy]
    by_cases slash : c = '/'
    · simp [slash, Text.piecesBy_ne_nil]
    · cases runs : Text.piecesBy (· == '/') text with
      | nil => exact absurd runs (Text.piecesBy_ne_nil _ _)
      | cons run more => simp [slash]

/-! ## Names and directories -/

/-- The path with a last name: what stands in front of it, the name, and nothing that leads on. -/
theorem exists_of_fileName {path name : String} (named : fileName? path = some name) :
    ∃ front, dropUnnamed (segments path) = front ++ [name.toList] ∧ leads name.toList = true ∧
      name.toList ≠ ['.', '.'] := by
  unfold fileName? at named
  split at named
  case h_2 => cases named
  case h_1 last found =>
    split at named
    case isTrue => cases named
    case isFalse other =>
      cases named
      simp only [Bool.or_eq_true, decide_eq_true_eq, not_or] at other
      obtain ⟨dot, double⟩ := other
      obtain ⟨front, split⟩ := List.getLast?_eq_some_iff.1 found
      obtain ⟨-, -, -, ends⟩ := exists_dropUnnamed (segments path)
      refine ⟨front, by simpa using split, ?_, by simpa using double⟩
      rcases ends last found with leading | ⟨same, -⟩
      · simpa using leading
      · exact absurd same dot

/-- A last name is a path of itself. -/
theorem parts_name {path name : String} (named : fileName? path = some name) :
    parts name = [name.toList] := by
  obtain ⟨front, split, leading, -⟩ := exists_of_fileName named
  obtain ⟨blanks, whole, -, -⟩ := exists_dropUnnamed (segments path)
  have plain : '/' ∉ name.toList := by
    refine slash_not_mem_segments (?_ : name.toList ∈ segments path)
    rw [whole, split]
    simp
  have alone : segments name = [name.toList] :=
    Text.pieces_join (List.cons_ne_nil _ _) (List.forall_mem_singleton.2 plain)
  rw [parts, alone]
  simp [leading]

/-- A path without a last name goes up at its end, or leads nowhere. -/
theorem parts_of_no_fileName {path : String} (unnamed : fileName? path = none) :
    parts path = [] ∨ (parts path).getLast? = some ['.', '.'] := by
  obtain ⟨-, -, -, ends⟩ := exists_dropUnnamed (segments path)
  unfold parts
  rw [← filter_leads_dropUnnamed]
  unfold fileName? at unnamed
  split at unnamed
  case h_2 none =>
    rw [List.getLast?_eq_none_iff.1 none]
    exact .inl rfl
  case h_1 last found =>
    split at unnamed
    case isFalse => cases unnamed
    case isTrue dots =>
      simp only [Bool.or_eq_true, decide_eq_true_eq] at dots
      rcases dots with rfl | rfl
      · rcases ends _ found with leading | ⟨-, alone⟩
        · cases leading
        · rw [alone]
          exact .inl rfl
      · obtain ⟨front, split⟩ := List.getLast?_eq_some_iff.1 found
        rw [split, List.filter_append]
        exact .inr (by simp [leads])

/-- A directory in front of a name is written as the segments that lead to it. -/
theorem segments_join {path : String} {front : List (List Char)} (some : front ≠ [])
    (inside : ∀ segment ∈ front, segment ∈ segments path) :
    segments (String.ofList (Text.join ['/'] front)) = front := by
  unfold segments
  rw [String.toList_ofList]
  exact Text.pieces_join some fun segment member => slash_not_mem_segments (inside segment member)

/-- **A path with a last name is its directory and that name.** -/
theorem parts_of_fileName {path name : String} (named : fileName? path = some name) :
    parts path = parts (directoryOf path) ++ [name.toList] ∧
      isAbsolute (directoryOf path) = isAbsolute path := by
  obtain ⟨front, split, leading, -⟩ := exists_of_fileName named
  obtain ⟨blanks, whole, -, -⟩ := exists_dropUnnamed (segments path)
  obtain ⟨blanks', front_eq, -, ends⟩ := exists_dropUnnamed front
  have parent : parent? path =
      if (dropUnnamed front).isEmpty && isAbsolute path then some "/"
      else some (String.ofList (Text.join ['/'] (dropUnnamed front))) := by
    unfold parent?
    rw [split]
    cases front with
    | nil => rfl
    | cons segment rest =>
      have last : (segment :: (rest ++ [name.toList])).dropLast = segment :: rest := by
        rw [← List.cons_append, List.dropLast_concat]
      rw [List.cons_append]
      dsimp only
      rw [last]
  have wholeParts : parts path = (dropUnnamed front).filter leads ++ [name.toList] := by
    rw [parts, ← filter_leads_dropUnnamed, split, List.filter_append,
      filter_leads_dropUnnamed front]
    simp [leading]
  unfold directoryOf
  rw [parent]
  cases kept : dropUnnamed front with
  | nil =>
    rw [kept] at wholeParts
    cases absolute : isAbsolute path with
    | true => exact ⟨wholeParts, rfl⟩
    | false => exact ⟨wholeParts, rfl⟩
  | cons first rest =>
    rw [kept] at wholeParts ends front_eq
    have inside : ∀ segment ∈ first :: rest, segment ∈ segments path := by
      intro segment member
      rw [whole, split, front_eq]
      simp only [List.mem_append]
      exact .inl (.inl (.inl member))
    have directory := segments_join (List.cons_ne_nil first rest) inside
    -- The directory does not end in an empty segment, so there is something in it.
    have filled : first = [] → rest ≠ [] := by
      rintro rfl rfl
      rcases ends [] rfl with leading | ⟨dot, -⟩
      · cases leading
      · cases dot
    have some : (String.ofList (Text.join ['/'] (first :: rest))).isEmpty = false := by
      apply Bool.eq_false_iff.2
      intro empty
      rw [String.isEmpty_iff.1 empty] at directory
      obtain ⟨none, alone⟩ := List.cons.inj (directory.symm.trans (rfl : segments "" = [[]]))
      exact filled none alone
    simp only [List.isEmpty_cons, Bool.false_and, Bool.false_eq_true, if_false, some]
    refine ⟨by rw [wholeParts, parts, directory], ?_⟩
    obtain ⟨behind, split'⟩ : ∃ behind, segments path = first :: (rest ++ behind) := by
      rw [whole, split, front_eq]
      simp only [List.cons_append, List.append_assoc]
      exact ⟨_, rfl⟩
    rw [Bool.eq_iff_iff, isAbsolute_iff_segments, isAbsolute_iff_segments, directory, split']
    constructor
    · rintro ⟨_, same, more⟩
      obtain ⟨rfl, rfl⟩ := List.cons.inj same
      exact ⟨_, rfl, by simp [more]⟩
    · rintro ⟨_, same, -⟩
      exact ⟨rest, by rw [(List.cons.inj same).1], filled (List.cons.inj same).1⟩

/-! ## Paths seen from a directory -/

theorem under_of_closed {directory path : String} (named : directory ≠ "")
    (closed : directory.toList.getLast? ≠ some '/') (relative : isAbsolute path = false) :
    under directory path = directory ++ "/" ++ path := by
  have filled : directory.isEmpty = false := by simpa using named
  rw [under, relative, filled, Bool.false_or, if_neg Bool.false_ne_true, if_neg closed]

/-- A relative path seen from a directory is written behind a slash. -/
theorem exists_under {directory : String} (named : directory ≠ "") :
    ∃ front, ∀ path, isAbsolute path = false →
      (under directory path).toList = front ++ '/' :: path.toList := by
  by_cases closed : directory.toList.getLast? = some '/'
  case pos =>
    have filled : directory.isEmpty = false := by simpa using named
    obtain ⟨front, split⟩ := List.getLast?_eq_some_iff.1 closed
    refine ⟨front, fun path relative => ?_⟩
    rw [under, relative, filled, Bool.false_or, if_neg Bool.false_ne_true, if_pos closed,
      String.toList_append, split, List.append_assoc, List.singleton_append]
  case neg =>
    refine ⟨directory.toList, fun path relative => ?_⟩
    rw [under_of_closed named closed relative, String.toList_append, String.toList_append,
      List.append_assoc]
    rfl

/-- What is in a folder is written like the folder at its front. -/
theorem isAbsolute_folder {folder path : String} (named : folder ≠ "")
    (relative : isAbsolute folder = false) : isAbsolute (folder ++ "/" ++ path) = false := by
  have letters : folder.toList ≠ [] := by simpa using named
  obtain ⟨first, rest, split⟩ := List.exists_cons_of_ne_nil letters
  rw [isAbsolute, split] at relative
  rwa [isAbsolute, String.toList_append, String.toList_append, split]

/-- A path seen from a directory that is itself seen from one. -/
theorem under_under {folder path : String} (directory : String) (named : folder ≠ "")
    (closed : folder.toList.getLast? ≠ some '/') (relative : isAbsolute folder = false)
    (relative' : isAbsolute path = false) :
    under (under directory folder) path = under directory (folder ++ "/" ++ path) := by
  by_cases nowhere : directory = ""
  case pos =>
    have all : ∀ path, under directory path = path := fun path => by simp [under, nowhere]
    rw [all, all, under_of_closed named closed relative']
  case neg =>
    obtain ⟨front, behind⟩ := exists_under nowhere
    have written := behind folder relative
    have letters : folder.toList ≠ [] := by simpa using named
    apply String.toList_injective
    rw [under_of_closed, behind _ (isAbsolute_folder named relative), String.toList_append, String.toList_append, written,
      String.toList_append, String.toList_append]
    · simp
    · intro empty
      rw [empty] at written
      simp at written
    · rw [written, List.getLast?_append, List.getLast?_cons_of_ne_nil letters]
      cases last : folder.toList.getLast? with
      | none => exact absurd (List.getLast?_eq_none_iff.1 last) letters
      | some c =>
        rw [last] at closed
        simpa using closed
    · exact relative'

end Gangway.Path

namespace Gangway.OsText

open Text (utf8 utf8Chars)

/-- A path in a directory that is no text, written in bytes. -/
theorem exists_under_bytes {directory : Text.Bytes} (named : directory ≠ []) :
    ∃ front, ∀ path, Path.isAbsolute path = false →
      (bytes directory).under path = bytes (front ++ 0x2F :: utf8 path) := by
  have filled : directory.isEmpty = false := by simpa using named
  by_cases closed : directory.getLast? = some 0x2F
  case pos =>
    obtain ⟨front, split⟩ := List.getLast?_eq_some_iff.1 closed
    refine ⟨front, fun path relative => ?_⟩
    rw [under, relative, filled, Bool.false_or, if_neg Bool.false_ne_true, if_pos closed, split,
      List.append_assoc, List.singleton_append]
  case neg =>
    refine ⟨directory, fun path relative => ?_⟩
    rw [under, relative, filled, Bool.false_or, if_neg Bool.false_ne_true, if_neg closed]

/-- A path seen from a directory that is itself seen from one. -/
theorem under_under {directory : OsText} {folder path : String}
    (filled : directory.isEmpty = false) (closed : folder.toList.getLast? ≠ some '/')
    (closed' : (utf8 folder).getLast? ≠ some 0x2F) (named : folder ≠ "")
    (relative : Path.isAbsolute folder = false) (relative' : Path.isAbsolute path = false) :
    (directory.under folder).under path = directory.under (folder ++ "/" ++ path) := by
  cases directory with
  | text directory =>
    exact congrArg text (Path.under_under directory named closed relative relative')
  | bytes directory =>
    have letters : utf8 folder ≠ [] := by
      have some : folder.toList ≠ [] := by simpa using named
      obtain ⟨first, rest, split⟩ := List.exists_cons_of_ne_nil some
      rw [utf8, split, Text.utf8Chars_cons]
      exact List.append_ne_nil_of_left_ne_nil (Text.utf8Chars_singleton_ne_nil first) _
    have slash : utf8 "/" = [0x2F] := by decide
    have spelled : utf8 (folder ++ "/" ++ path) = utf8 folder ++ 0x2F :: utf8 path := by
      simp only [utf8, String.toList_append, Text.utf8Chars_append] at slash ⊢
      rw [slash, List.append_assoc, List.singleton_append]
    obtain ⟨front, behind⟩ := exists_under_bytes (by simpa [isEmpty] using filled)
    have last : (front ++ 0x2F :: utf8 folder).getLast? = (utf8 folder).getLast? := by
      rw [List.getLast?_append, List.getLast?_cons_of_ne_nil letters]
      simp [List.getLast?_eq_some_getLast letters]
    rw [behind folder relative, behind _ (Path.isAbsolute_folder named relative), spelled, under,
      relative', last, if_neg closed']
    simp

end Gangway.OsText
