import Gangway.Text.Cut
import Mathlib.Data.List.TakeDrop

/-!
# Where a text is cut

The pieces between marks are those of `List.splitOn`. A cut at a word gives the text back around the
word, is made wherever the word occurs, and is made at the front-most place.
-/

namespace Gangway.Text

theorem piecesBy_eq_splitOnP (mark : Char → Bool) (text : List Char) :
    piecesBy mark text = text.splitOnP mark := by
  induction text with
  | nil => rfl
  | cons c rest ih =>
    rw [piecesBy, List.splitOnP_cons_eq_if_modifyHead, ih]
    split
    · rfl
    · cases runs : rest.splitOnP mark with
      | nil => exact absurd runs (List.splitOnP_ne_nil mark rest)
      | cons run runs => rfl

theorem pieces_eq_splitOn (mark : Char) (text : List Char) :
    pieces mark text = text.splitOn mark :=
  piecesBy_eq_splitOnP _ text

/-- The pieces are made of the characters that are no marks. -/
theorem mem_of_mem_piecesBy {mark : Char → Bool} {text piece : List Char} {c : Char}
    (member : piece ∈ piecesBy mark text) (inside : c ∈ piece) : c ∈ text ∧ mark c = false := by
  induction text generalizing piece with
  | nil =>
    rw [piecesBy, List.mem_singleton] at member
    rw [member] at inside
    cases inside
  | cons d rest ih =>
    rw [piecesBy] at member
    split at member
    case isTrue =>
      rcases List.mem_cons.1 member with rfl | member
      · cases inside
      · exact (ih member inside).imp_left (List.mem_cons_of_mem d)
    case isFalse unmarked =>
      cases runs : piecesBy mark rest with
      | nil => exact absurd runs (piecesBy_ne_nil mark rest)
      | cons run more =>
        rw [runs] at ih member
        rcases List.mem_cons.1 member with rfl | member
        · rcases List.mem_cons.1 inside with rfl | inside
          · exact ⟨List.mem_cons_self, Bool.eq_false_iff.2 unmarked⟩
          · exact (ih List.mem_cons_self inside).imp_left (List.mem_cons_of_mem d)
        · have later := ih (List.mem_cons_of_mem run member) inside
          exact later.imp_left (List.mem_cons_of_mem d)

/-- A character that is no mark stands in one of the pieces. -/
theorem exists_piece_of_mem {mark c : Char} {text : List Char} (inside : c ∈ text)
    (plain : c ≠ mark) : ∃ piece ∈ pieces mark text, c ∈ piece := by
  unfold pieces
  induction text with
  | nil => cases inside
  | cons d rest ih =>
    have later (there : c ∈ rest) : ∃ piece ∈ piecesBy (· == mark) (d :: rest), c ∈ piece := by
      obtain ⟨piece, member, found⟩ := ih there
      rw [piecesBy]
      split
      · exact ⟨piece, List.mem_cons_of_mem _ member, found⟩
      · cases runs : piecesBy (· == mark) rest with
        | nil => exact absurd runs (piecesBy_ne_nil _ rest)
        | cons run more =>
          rw [runs] at member
          rcases List.mem_cons.1 member with rfl | member
          · exact ⟨d :: piece, List.mem_cons_self, List.mem_cons_of_mem d found⟩
          · exact ⟨piece, List.mem_cons_of_mem _ member, found⟩
    rcases List.mem_cons.1 inside with rfl | there
    · rw [piecesBy, if_neg (mt beq_iff_eq.1 plain)]
      cases runs : piecesBy (· == mark) rest with
      | nil => exact ⟨[c], List.mem_cons_self, List.mem_cons_self⟩
      | cons run more => exact ⟨c :: run, List.mem_cons_self, List.mem_cons_self⟩
    · exact later there

/-- Texts around the first of a mark are the same if the wholes are. -/
theorem append_cons_inj {mark : Char} {front front' back back' : List Char}
    (same : front ++ mark :: back = front' ++ mark :: back') (plain : mark ∉ front)
    (plain' : mark ∉ front') : front = front' ∧ back = back' := by
  induction front generalizing front' with
  | nil =>
    cases front' with
    | nil => exact ⟨rfl, (List.cons.inj same).2⟩
    | cons d front' =>
      obtain ⟨rfl, -⟩ := List.cons.inj same
      exact absurd List.mem_cons_self plain'
  | cons c front ih =>
    cases front' with
    | nil =>
      obtain ⟨rfl, -⟩ := List.cons.inj same
      exact absurd List.mem_cons_self plain
    | cons d front' =>
      obtain ⟨rfl, tails⟩ := List.cons.inj same
      obtain ⟨fronts, backs⟩ := ih tails (fun member => plain (List.mem_cons_of_mem c member))
        fun member => plain' (List.mem_cons_of_mem c member)
      exact ⟨congrArg (c :: ·) fronts, backs⟩

/-- Characters that are no marks go to the front of the first piece. -/
theorem splitOn_append_of_not_mem {mark : Char} {front : List Char} (unmarked : mark ∉ front)
    (rest : List Char) :
    (front ++ rest).splitOn mark = (rest.splitOn mark).modifyHead (front ++ ·) := by
  induction front with
  | nil => exact (congrFun List.modifyHead_id _).symm
  | cons c front ih =>
    have different : (c == mark) = false :=
      beq_false_of_ne fun same => unmarked (same ▸ List.mem_cons_self)
    have tail := ih fun member => unmarked (List.mem_cons_of_mem c member)
    rw [List.cons_append, List.splitOn_cons_eq_if_modifyHead, different, tail,
      if_neg Bool.false_ne_true, List.modifyHead_modifyHead]
    rfl

/-- Texts that are joined with a mark that stands in none of them are the pieces of the whole. -/
theorem pieces_join {mark : Char} {texts : List (List Char)} (some : texts ≠ [])
    (plain : ∀ text ∈ texts, mark ∉ text) : pieces mark (join [mark] texts) = texts := by
  rw [pieces_eq_splitOn]
  induction texts with
  | nil => exact absurd rfl some
  | cons text rest ih =>
    have here := plain text List.mem_cons_self
    cases rest with
    | nil =>
      have whole := splitOn_append_of_not_mem here []
      rw [List.append_nil] at whole
      rw [join, whole]
      simp
    | cons next rest =>
      have there := ih (List.cons_ne_nil _ _) fun other member =>
        plain other (List.mem_cons_of_mem text member)
      rw [join, List.append_assoc, List.singleton_append, splitOn_append_of_not_mem here,
        List.splitOn_cons_eq_if_modifyHead, if_pos (beq_self_eq_true mark), there,
        List.modifyHead_cons, List.append_nil]
      exact List.cons_ne_nil _ _

/-- Dropping from the front goes no further than to the first character that stops it. -/
theorem dropWhile_append_of_stop {p : Char → Bool} {front rest : List Char} {c : Char}
    (stops : p c = false) :
    (front ++ c :: rest).dropWhile p = front.dropWhile p ++ c :: rest := by
  rw [List.dropWhile_append, List.dropWhile_cons_of_neg (by simp [stops])]
  split
  case isTrue all => rw [List.isEmpty_iff.1 all, List.nil_append]
  case isFalse => rfl

/-- A run of a class ends where the first other character stands. -/
theorem span_append {p : Char → Bool} {front rest : List Char} (all : ∀ c ∈ front, p c = true)
    (stops : ∀ c ∈ rest.head?, p c = false) : (front ++ rest).span p = (front, rest) := by
  rw [List.span_eq_takeWhile_dropWhile, List.takeWhile_append_of_pos all,
    List.dropWhile_append_of_pos all]
  cases rest with
  | nil => simp
  | cons c rest =>
    have stop := stops c rfl
    rw [List.takeWhile_cons_of_neg (by simp [stop]), List.dropWhile_cons_of_neg (by simp [stop]),
      List.append_nil]

/-- A text is cut behind the longest run of a class in front of it. -/
theorem span_eq_iff {p : Char → Bool} {text front rest : List Char} :
    text.span p = (front, rest) ↔
      text = front ++ rest ∧ (∀ c ∈ front, p c = true) ∧ ∀ c ∈ rest.head?, p c = false := by
  constructor
  · intro cut
    rw [List.span_eq_takeWhile_dropWhile] at cut
    cases cut
    refine ⟨List.takeWhile_append_dropWhile.symm, List.all_eq_true.1 List.all_takeWhile, ?_⟩
    intro c first
    have stops := List.head?_dropWhile_not p text
    rw [Option.mem_def.1 first] at stops
    exact stops
  · rintro ⟨rfl, all, stops⟩
    exact span_append all stops

theorem span_of_all {p : Char → Bool} {text : List Char} (all : ∀ c ∈ text, p c = true) :
    text.span p = (text, []) := by
  have cut : (text ++ []).span p = (text, []) := span_append all (by simp)
  rwa [List.append_nil] at cut

theorem dropLeading_eq_none_iff {word text : List Char} :
    dropLeading word text = none ↔ ¬ word <+: text := by
  rw [Option.eq_none_iff_forall_ne_some]
  constructor
  · rintro none ⟨rest, split⟩
    exact none rest (dropLeading_eq_some_iff.2 split.symm)
  · intro different rest dropped
    exact different ⟨rest, (dropLeading_eq_some_iff.1 dropped).symm⟩

/-- The parts of a cut give the text back around the word. -/
theorem eq_append_of_splitOnce {word text before after : List Char}
    (cut : splitOnce word text = some (before, after)) : text = before ++ word ++ after := by
  induction text generalizing before after with
  | nil =>
    obtain ⟨rest, dropped, same⟩ := Option.map_eq_some_iff.1 cut
    cases same
    exact dropLeading_eq_some_iff.1 dropped
  | cons c text ih =>
    rw [splitOnce] at cut
    split at cut
    case h_1 rest dropped =>
      cases cut
      exact dropLeading_eq_some_iff.1 dropped
    case h_2 =>
      obtain ⟨⟨front, rest⟩, found, same⟩ := Option.map_eq_some_iff.1 cut
      cases same
      rw [ih found]
      rfl

/-- A text is cut wherever the word occurs in it. -/
theorem splitOnce_eq_none_iff {word text : List Char} :
    splitOnce word text = none ↔ ¬ word <:+: text := by
  induction text with
  | nil =>
    rw [splitOnce, Option.map_eq_none_iff, dropLeading_eq_none_iff, List.prefix_nil,
      List.infix_nil]
  | cons c text ih =>
    rw [splitOnce, List.infix_cons_iff, not_or, ← ih, ← dropLeading_eq_none_iff]
    cases dropLeading word (c :: text) with
    | some rest => simp
    | none => simp

/-- What stands in joined texts stands in one of them, or between them. -/
theorem mem_of_mem_intercalate {mark : List Char} {texts : List (List Char)} {c : Char}
    (member : c ∈ mark.intercalate texts) : c ∈ mark ∨ ∃ text ∈ texts, c ∈ text := by
  induction texts with
  | nil => cases member
  | cons text texts ih =>
    cases texts with
    | nil => exact .inr ⟨text, List.mem_cons_self, by simpa using member⟩
    | cons next texts =>
      rw [List.intercalate_cons_cons, List.append_assoc, List.mem_append, List.mem_append] at member
      rcases member with here | between | there
      · exact .inr ⟨text, List.mem_cons_self, here⟩
      · exact .inl between
      · refine (ih there).imp_right ?_
        rintro ⟨other, inside, found⟩
        exact ⟨other, List.mem_cons_of_mem text inside, found⟩

/-- A text is cut at the word that stands first in it. -/
theorem splitOnce_append {word before : List Char} (word_ne : word ≠ [])
    (first : ¬word <:+: before ++ word.dropLast) (after : List Char) :
    splitOnce word (before ++ word ++ after) = some (before, after) := by
  induction before with
  | nil =>
    obtain ⟨w, rest, rfl⟩ := List.exists_cons_of_ne_nil word_ne
    have dropped : dropLeading (w :: rest) (w :: (rest ++ after)) = some after :=
      dropLeading_eq_some_iff.2 rfl
    rw [List.nil_append, List.cons_append, splitOnce, dropped]
  | cons c before ih =>
    have other : dropLeading word (c :: (before ++ word ++ after)) = none := by
      refine dropLeading_eq_none_iff.2 fun leading => first ?_
      -- The word would end before the last character of the word behind it.
      have whole : c :: (before ++ word ++ after) =
          c :: before ++ word.dropLast ++ ([word.getLast word_ne] ++ after) := by
        rw [List.append_assoc (c :: before), ← List.append_assoc word.dropLast,
          List.dropLast_concat_getLast, List.append_assoc]
        rfl
      rw [whole] at leading
      have shorter : word.length ≤ (c :: before ++ word.dropLast).length := by
        have pos := List.length_pos_iff.2 word_ne
        rw [List.length_append, List.length_cons, List.length_dropLast]
        omega
      exact (List.prefix_of_prefix_length_le leading (List.prefix_append _ _) shorter).isInfix
    have later := ih fun inside => first (inside.trans (List.suffix_cons c _).isInfix)
    change splitOnce word (c :: (before ++ word ++ after)) = _
    rw [splitOnce, other, later]
    rfl

/-- Where a text is cut the word stands for the first time. -/
theorem not_infix_of_splitOnce {word text before after : List Char} (word_ne : word ≠ [])
    (cut : splitOnce word text = some (before, after)) : ¬word <:+: before ++ word.dropLast := by
  induction text generalizing before after with
  | nil =>
    obtain ⟨rest, dropped, -⟩ := Option.map_eq_some_iff.1 cut
    exact absurd (dropLeading_eq_some_iff.1 dropped) (by simp [word_ne])
  | cons c text ih =>
    rw [splitOnce] at cut
    split at cut
    case h_1 rest dropped =>
      cases cut
      intro inside
      have length := inside.length_le
      have pos := List.length_pos_iff.2 word_ne
      rw [List.nil_append, List.length_dropLast] at length
      omega
    case h_2 other =>
      obtain ⟨⟨front, rest⟩, found, same⟩ := Option.map_eq_some_iff.1 cut
      cases same
      rw [List.cons_append, List.infix_cons_iff, not_or]
      refine ⟨fun leading => dropLeading_eq_none_iff.1 other (leading.trans ?_), ih found⟩
      rw [eq_append_of_splitOnce found, List.append_assoc]
      exact (List.prefix_append_right_inj (c :: front)).2
        ((List.dropLast_prefix word).trans (List.prefix_append word _))

/-- A text is cut around a word where the word stands for the first time, and only there. -/
theorem splitOnce_eq_some_iff {word text before after : List Char} (word_ne : word ≠ []) :
    splitOnce word text = some (before, after) ↔
      text = before ++ word ++ after ∧ ¬word <:+: before ++ word.dropLast := by
  constructor
  · exact fun cut => ⟨eq_append_of_splitOnce cut, not_infix_of_splitOnce word_ne cut⟩
  · rintro ⟨rfl, first⟩
    exact splitOnce_append word_ne first after

end Gangway.Text
