import Gangway.Proofs.Text.Cutting
import Gangway.Text.Lines
import Mathlib.Data.List.Basic

/-!
# Lines of texts that stand one behind the other

A line feed ends the lines of what is in front of it, and what is behind it has its own lines
(`lines_append`). It ends one line more than there are line feeds in front of it, and at most a
carriage return and an empty line are its own doing.
-/

namespace Gangway.Text

theorem dropReturn_eq_or (line : List Char) :
    dropReturn line = line ∨ line = dropReturn line ++ ['\r'] := by
  unfold dropReturn
  split
  case h_1 rest same =>
    right
    have turned := congrArg List.reverse same
    simpa using turned
  case h_2 => exact .inl rfl

theorem linesAfter_append (current text rest : List Char) :
    linesAfter current (text ++ '\n' :: rest) =
      linesAfter current (text ++ ['\n']) ++ lines rest := by
  induction text generalizing current with
  | nil => rfl
  | cons c text ih =>
    simp only [List.cons_append, linesAfter]
    split
    · rw [ih, List.cons_append]
    · exact ih (c :: current)

/-- Behind a line feed the lines begin anew. -/
theorem lines_append (text rest : List Char) :
    lines (text ++ '\n' :: rest) = lines (text ++ ['\n']) ++ lines rest :=
  linesAfter_append [] text rest

theorem length_linesAfter (current text : List Char) :
    (linesAfter current (text ++ ['\n'])).length = text.count '\n' + 1 := by
  induction text generalizing current with
  | nil => rfl
  | cons c text ih =>
    simp only [List.cons_append, linesAfter]
    split
    case isTrue feed => rw [feed, List.length_cons, ih, List.count_cons_self]
    case isFalse other => rw [ih, List.count_cons_of_ne other]

/-- The number of lines that a line feed and those in front of it end. -/
theorem length_lines (text : List Char) :
    (lines (text ++ ['\n'])).length = text.count '\n' + 1 :=
  length_linesAfter [] text

theorem linesAfter_eq_map (current text : List Char) :
    linesAfter current (text ++ ['\n']) =
      ((pieces '\n' text).modifyHead (current.reverse ++ ·)).map dropReturn := by
  rw [pieces_eq_splitOn]
  induction text generalizing current with
  | nil => simp [linesAfter]
  | cons c text ih =>
    rw [List.cons_append, linesAfter, List.splitOn_cons_eq_if_modifyHead]
    by_cases feed : c = '\n'
    · rw [if_pos feed, if_pos (beq_iff_eq.2 feed), ih, List.modifyHead_cons, List.map_cons,
        List.append_nil]
      exact congrArg (dropReturn current.reverse :: ·)
        (congrArg (List.map dropReturn) (congrFun List.modifyHead_id _))
    · rw [if_neg feed, if_neg (mt beq_iff_eq.1 feed), ih, List.modifyHead_modifyHead]
      simp [Function.comp_def]

/-- Behind a line feed at the end, the lines are what stands between line feeds. -/
theorem lines_eq_map (text : List Char) :
    lines (text ++ ['\n']) = (pieces '\n' text).map dropReturn := by
  rw [lines, linesAfter_eq_map]
  exact congrArg (List.map dropReturn) (congrFun List.modifyHead_id _)

theorem map_linesAfter {β : Type} {f : List Char → β} (same : ∀ line, f (dropReturn line) = f line)
    (current text : List Char) :
    (linesAfter current (text ++ ['\n'])).map f = (linesAfter current text).map f ∨
      (linesAfter current (text ++ ['\n'])).map f = (linesAfter current text).map f ++ [f []] := by
  induction text generalizing current with
  | nil =>
    -- Without an open line the feed ends an empty one, and else the line that is open.
    cases current with
    | nil => exact .inr rfl
    | cons c current =>
      left
      simp [linesAfter, same]
  | cons c text ih =>
    simp only [List.cons_append, linesAfter]
    split
    · simp only [List.map_cons, List.cons_append, List.cons.injEq, true_and]
      exact ih []
    · exact ih (c :: current)

/-- To what does not mind a carriage return at the end of a line, a line feed at the end of a text
adds an empty line, or nothing. -/
theorem map_lines {β : Type} {f : List Char → β} (same : ∀ line, f (dropReturn line) = f line)
    (text : List Char) :
    (lines (text ++ ['\n'])).map f = (lines text).map f ∨
      (lines (text ++ ['\n'])).map f = (lines text).map f ++ [f []] :=
  map_linesAfter same [] text

end Gangway.Text
