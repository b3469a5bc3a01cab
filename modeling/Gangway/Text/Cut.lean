/-!
# Cutting text

Text is cut at marks: at every character of a class (`piecesBy`, `pieces`), once at the first
occurrence of a word (`splitOnce`), or at the front (`dropLeading`).
-/

namespace Gangway.Text

/-- The runs between the characters of a class; a text with `n` such characters has `n + 1` runs. Bytes
are cut in the same way. -/
def piecesBy {α : Type} (mark : α → Bool) : List α → List (List α)
  | [] => [[]]
  | c :: rest =>
    if mark c then [] :: piecesBy mark rest
    else
      match piecesBy mark rest with
      | [] => [[c]]
      | run :: runs => (c :: run) :: runs

/-- The runs between the occurrences of one character. -/
def pieces (mark : Char) : List Char → List (List Char) := piecesBy (· == mark)

/-- The text after a leading word, when the text begins with it. -/
def dropLeading : List Char → List Char → Option (List Char)
  | [], text => some text
  | _ :: _, [] => none
  | w :: word, c :: text => if w = c then dropLeading word text else none

/-- The texts before and after the first occurrence of a word. -/
def splitOnce (word : List Char) : List Char → Option (List Char × List Char)
  | [] => (dropLeading word []).map fun rest => ([], rest)
  | c :: text =>
    match dropLeading word (c :: text) with
    | some rest => some ([], rest)
    | none => (splitOnce word text).map fun (before, after) => (c :: before, after)

/-- The texts written one after the other with a mark between neighbours. -/
def join (mark : List Char) : List (List Char) → List Char
  | [] => []
  | [text] => text
  | text :: more => text ++ mark ++ join mark more

theorem dropLeading_eq_some_iff {word text rest : List Char} :
    dropLeading word text = some rest ↔ text = word ++ rest := by
  induction word generalizing text with
  | nil => simp [dropLeading, eq_comm]
  | cons w word ih =>
    cases text with
    | nil => simp [dropLeading]
    | cons c text =>
      by_cases h : w = c
      · simp [dropLeading, h, ih]
      · simp [dropLeading, h, Ne.symm h]

theorem piecesBy_ne_nil (mark : Char → Bool) (text : List Char) : piecesBy mark text ≠ [] := by
  cases text with
  | nil => simp [piecesBy]
  | cons c rest =>
    by_cases h : mark c
    · simp [piecesBy, h]
    · cases hr : piecesBy mark rest <;> simp [piecesBy, h, hr]

end Gangway.Text
