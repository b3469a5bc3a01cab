import Gangway.Proofs.Text.Cutting
import Gangway.Text.Blank
import Mathlib.Data.List.DropRight

/-!
# Words between blanks

The words of a text are found one after the other, and blanks at its ends make no difference to them:
a text has the words that it has trimmed (`words_trim`).
-/

namespace Gangway.Text

/-- Every character is a blank. -/
def AllBlank (text : List Char) : Prop := ∀ c ∈ text, isBlank c = true

instance (text : List Char) : Decidable (AllBlank text) :=
  decidable_of_iff (text.all isBlank = true) List.all_eq_true

/-- The text is a word: it is not empty and holds no blank. -/
structure IsWord (text : List Char) : Prop where
  filled : text ≠ []
  solid : ∀ c ∈ text, isBlank c = false

/-- The text does not go on with a word: it is empty or begins with a blank. -/
def EndsWord (rest : List Char) : Prop := ∀ c ∈ rest.head?, isBlank c = true

instance (rest : List Char) : Decidable (EndsWord rest) :=
  decidable_of_iff (rest.head?.all isBlank = true) (Option.all_eq_true _ _)

/-! ## Words -/

@[simp] theorem words_nil : words [] = [] := rfl

theorem words_of_isWord {word : List Char} (whole : IsWord word) : words word = [word] := by
  unfold words
  rw [piecesBy_eq_splitOnP, List.splitOnP_eq_singleton whole.solid]
  simp [whole.filled]

/-- A blank ends a word. -/
theorem words_append_cons {c : Char} (blank : isBlank c = true) (front rest : List Char) :
    words (front ++ c :: rest) = words front ++ words rest := by
  unfold words
  simp only [piecesBy_eq_splitOnP]
  rw [List.splitOnP_append_cons front rest blank, List.filter_append]

theorem words_cons {c : Char} (blank : isBlank c = true) (rest : List Char) :
    words (c :: rest) = words rest :=
  words_append_cons blank [] rest

theorem words_append_of_endsWord (front : List Char) {rest : List Char} (ends : EndsWord rest) :
    words (front ++ rest) = words front ++ words rest := by
  cases rest with
  | nil => simp
  | cons c rest =>
    have blank : isBlank c = true := ends c rfl
    rw [words_append_cons blank, words_cons blank]

theorem words_word_append {word rest : List Char} (whole : IsWord word) (ends : EndsWord rest) :
    words (word ++ rest) = word :: words rest := by
  rw [words_append_of_endsWord word ends, words_of_isWord whole]
  rfl

theorem words_blanks_append {blanks : List Char} (all : AllBlank blanks) (rest : List Char) :
    words (blanks ++ rest) = words rest := by
  induction blanks with
  | nil => rfl
  | cons c blanks ih =>
    obtain ⟨blank, others⟩ := List.forall_mem_cons.1 all
    rw [List.cons_append, words_cons blank]
    exact ih others

theorem AllBlank.endsWord_append {blanks : List Char} (all : AllBlank blanks) (some : blanks ≠ [])
    (rest : List Char) : EndsWord (blanks ++ rest) := by
  intro c first
  rw [List.head?_append_of_ne_nil _ some] at first
  exact all c (List.mem_of_head? first)

theorem AllBlank.endsWord {blanks : List Char} (all : AllBlank blanks) : EndsWord blanks := by
  intro c first
  exact all c (List.mem_of_head? first)

theorem words_append_blanks (front : List Char) {blanks : List Char} (all : AllBlank blanks) :
    words (front ++ blanks) = words front := by
  have none : words blanks = [] := by
    have alone := words_blanks_append all []
    rwa [List.append_nil] at alone
  rw [words_append_of_endsWord front all.endsWord, none, List.append_nil]

/-! ## Trimmed texts -/

theorem trimStart_append {blanks : List Char} (all : AllBlank blanks) (rest : List Char) :
    trimStart (blanks ++ rest) = trimStart rest :=
  List.dropWhile_append_of_pos all

theorem trimEnd_eq_rdropWhile (text : List Char) : trimEnd text = text.rdropWhile isBlank := rfl

/-- Blanks behind a text are trimmed. -/
theorem trim_concat {c : Char} (blank : isBlank c = true) (text : List Char) :
    trim (text ++ [c]) = trim text := by
  unfold trim trimStart
  rw [List.dropWhile_append]
  split
  case isTrue all =>
    have none : text.dropWhile isBlank = [] := List.isEmpty_iff.1 all
    rw [none, List.dropWhile_cons_of_pos blank]
    rfl
  case isFalse =>
    rw [trimEnd_eq_rdropWhile, List.rdropWhile_concat_pos _ _ _ blank]
    rfl

/-- A text trimmed begins with its first character that is no blank. -/
theorem exists_trim {blanks : List Char} (all : AllBlank blanks) {c : Char}
    (solid : isBlank c = false) (rest : List Char) :
    ∃ more, trim (blanks ++ c :: rest) = c :: more := by
  have start : trimStart (c :: rest) = c :: rest :=
    List.dropWhile_cons_of_neg (by simp [solid])
  have turned : (c :: rest).reverse = rest.reverse ++ [c] := by simp
  refine ⟨trimEnd rest, ?_⟩
  unfold trim
  rw [trimStart_append all, start, trimEnd, turned, dropWhile_append_of_stop solid]
  simp [trimEnd]

/-- Blanks at the ends of a text make no difference to its words. -/
theorem words_trim (text : List Char) : words (trim text) = words text := by
  have front : AllBlank (text.takeWhile isBlank) := List.all_eq_true.1 List.all_takeWhile
  have back : AllBlank ((trimStart text).rtakeWhile isBlank) := fun c => List.mem_rtakeWhile_imp
  have start : words (trimStart text) = words text := by
    have whole : text.takeWhile isBlank ++ trimStart text = text :=
      List.takeWhile_append_dropWhile
    rw [← words_blanks_append front (trimStart text), whole]
  have ends : words (trim text) = words (trimStart text) := by
    have whole : trim text ++ (trimStart text).rtakeWhile isBlank = trimStart text :=
      List.rdropWhile_append_rtakeWhile
    rw [← words_append_blanks (trim text) back, whole]
  rw [ends, start]

end Gangway.Text
