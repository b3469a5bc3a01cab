import Gangway.Proofs.Text.Cutting
import Gangway.Proofs.Uri.Encoding
import Gangway.Uri.Basic

/-!
# Paths that are normal already

A path whose characters are all kept and none of whose segments is made of dots is its own normal
form. An encoded path is of this kind as soon as the segments it encodes are not made of dots, for
no triple stands for a dot.
-/

namespace Gangway.Uri

open Gangway.Text (piecesBy utf8Chars)

theorem dropDots_of_plain {all : List (List Char)}
    (plain : ∀ segment ∈ all, isDot segment = false ∧ isDoubleDot segment = false)
    (kept : List (List Char)) : dropDots kept all = kept.reverse ++ all := by
  induction all generalizing kept with
  | nil => rw [dropDots, List.append_nil]
  | cons segment rest ih =>
    obtain ⟨dot, double⟩ := plain segment List.mem_cons_self
    cases rest with
    | nil => simp [dropDots, dot, double]
    | cons next rest =>
      rw [dropDots, if_neg (by simp [double]), if_neg (by simp [dot])]
      · rw [ih fun other member => plain other (List.mem_cons_of_mem segment member),
          List.reverse_cons, List.append_assoc]
        rfl
      · exact List.cons_ne_nil _ _

/-- The segments with a slash in front of each are the path. -/
theorem flatMap_splitOn (text : List Char) :
    (text.splitOn '/').flatMap (fun segment => '/' :: segment) = '/' :: text := by
  induction text with
  | nil => rfl
  | cons c rest ih =>
    rw [List.splitOn_cons_eq_if_modifyHead]
    split
    case isTrue slash =>
      rw [List.flatMap_cons, ih, eq_of_beq slash]
      rfl
    case isFalse =>
      cases cut : rest.splitOn '/' with
      | nil => exact absurd cut (List.splitOn_ne_nil '/' rest)
      | cons run runs =>
        rw [cut, List.flatMap_cons] at ih
        rw [List.modifyHead_cons, List.flatMap_cons]
        exact congrArg (fun tail => '/' :: c :: tail) (List.cons.inj ih).2

/-- A path that is normal already stays as it is. -/
theorem pathAfterAuthority_of_plain {text : List Char} (kept : ∀ c ∈ text, pathKeeps c = true)
    (plain : ∀ segment ∈ text.splitOn '/', isDot segment = false ∧ isDoubleDot segment = false) :
    pathAfterAuthority false ('/' :: text) = '/' :: text := by
  have ends : (fun c => decide (c = '/') || (false && decide (c = '\\'))) =
      fun c => decide (c = '/') := by
    funext c
    rw [Bool.false_and, Bool.or_false]
  have cut : piecesBy (fun c => decide (c = '/')) text = text.splitOn '/' :=
    Text.pieces_eq_splitOn '/' text
  have encoded : (text.splitOn '/').map (percentEncode pathKeeps) = text.splitOn '/' := by
    refine (List.map_congr_left fun segment member => ?_).trans (List.map_id _)
    refine percentEncode_of_kept fun c inside => ?_
    have whole : c ∈ '/' :: text := by
      rw [← flatMap_splitOn]
      exact List.mem_flatMap.2 ⟨segment, member, List.mem_cons_of_mem _ inside⟩
    rcases List.mem_cons.1 whole with rfl | member
    · decide
    · exact kept c member
  unfold pathAfterAuthority normalPath
  simp only [ends, decide_true]
  change (dropDots [] ((piecesBy (fun c => decide (c = '/')) text).map _)).flatMap _ = _
  rw [cut, encoded, dropDots_of_plain plain]
  exact flatMap_splitOn text

/-! ## Encoded paths -/

/-- The segments of an encoded path are the encoded segments of the path. -/
theorem splitOn_percentEncode (text : List Char) :
    (percentEncode isUnreservedOrSlash text).splitOn '/' =
      (text.splitOn '/').map (percentEncode isUnreserved) := by
  induction text with
  | nil => rfl
  | cons c text ih =>
    rw [percentEncode_cons, List.splitOn_cons_eq_if_modifyHead]
    split
    case isTrue slash =>
      have same : c = '/' := eq_of_beq slash
      subst same
      have front : encodeChar isUnreservedOrSlash '/' ++ percentEncode isUnreservedOrSlash text =
          '/' :: percentEncode isUnreservedOrSlash text := rfl
      rw [front, List.splitOn_cons_eq_if_modifyHead, if_pos (beq_self_eq_true '/'), ih]
      rfl
    case isFalse other =>
      have same : encodeChar isUnreservedOrSlash c = encodeChar isUnreserved c := by
        simp [encodeChar, isUnreservedOrSlash, show ¬c = '/' by simpa using other]
      have unmarked : '/' ∉ encodeChar isUnreserved c := by
        have alone : '/' ∉ percentEncode isUnreserved [c] :=
          (writtenWith_percentEncode_name [c]).not_mem (by decide) rfl
        exact fun member => alone (List.mem_append_left _ member)
      rw [same, Text.splitOn_append_of_not_mem unmarked, ih]
      cases cut : text.splitOn '/' with
      | nil => exact absurd cut (List.splitOn_ne_nil '/' text)
      | cons run runs => rfl

/-- No encoded segment is made of dots but for the dots themselves. -/
theorem isDot_percentEncode {segment : List Char}
    (dot : isDot (percentEncode isUnreserved segment) = true) : segment = ['.'] := by
  have decoded {text : List Char} (dot : isDot text = true) :
      percentDecode (utf8Chars text) = utf8Chars ['.'] := by
    simp only [isDot, Bool.or_eq_true, decide_eq_true_eq] at dot
    rcases dot with (rfl | rfl) | rfl
    · decide
    · decide
    · decide
  have same := decoded dot
  rw [percentDecode_percentEncode plain_of_isUnreserved] at same
  exact Text.utf8Chars_injective same

theorem isDoubleDot_percentEncode {segment : List Char}
    (double : isDoubleDot (percentEncode isUnreserved segment) = true) : segment = ['.', '.'] := by
  have decoded {text : List Char} (double : isDoubleDot text = true) :
      percentDecode (utf8Chars text) = utf8Chars ['.', '.'] := by
    unfold isDoubleDot at double
    split at double
    case h_4 => cases double
    all_goals
      simp only [isDot, Bool.or_eq_true, decide_eq_true_eq] at double
      rcases double with (rfl | rfl) | rfl
      · decide
      · decide
      · decide
  have same := decoded double
  rw [percentDecode_percentEncode plain_of_isUnreserved] at same
  exact Text.utf8Chars_injective same

/-- An encoded path is normal already, if no segment that it encodes is made of dots. -/
theorem pathAfterAuthority_percentEncode {text : List Char}
    (plain : ∀ segment ∈ text.splitOn '/', segment ≠ ['.'] ∧ segment ≠ ['.', '.']) :
    pathAfterAuthority false ('/' :: percentEncode isUnreservedOrSlash text) =
      '/' :: percentEncode isUnreservedOrSlash text := by
  refine pathAfterAuthority_of_plain (fun c member => ?_) fun encoded member => ?_
  · rcases writtenWith_percentEncode_path text c member with word | mark
    · exact (kept_of_isUnreserved word).2.2.1
    · have all : ∀ c ∈ ['%', '/'], pathKeeps c = true := List.all_eq_true.1 (by decide)
      exact all c mark
  · rw [splitOn_percentEncode] at member
    obtain ⟨segment, inside, rfl⟩ := List.mem_map.1 member
    obtain ⟨dot, double⟩ := plain segment inside
    exact ⟨Bool.eq_false_iff.2 fun made => dot (isDot_percentEncode made),
      Bool.eq_false_iff.2 fun made => double (isDoubleDot_percentEncode made)⟩

end Gangway.Uri
