import Gangway.Proofs.Text.Cutting
import Gangway.Proofs.Uri.Encoding
import Gangway.Uri.Query

/-!
# Form fields and back

A form field is written with a `+` for each blank and a triple for every byte that is no letter,
digit or one of a few signs. Fields are written one after the other with `&` between them, and read
back as the pairs that they stand for (`formPairs_fieldsText`).
-/

namespace Gangway.Uri

open Gangway.Text (utf8Chars)

/-- The characters that stand for themselves in a form field. -/
def isFormPlain (c : Char) : Bool :=
  c.isAlphanum || c = '*' || c = '-' || c = '.' || c = '_'

/-- A character as a form field holds it. -/
def formChar (c : Char) : List Char := if c = ' ' then ['+'] else encodeChar isFormPlain c

/-- A text as a form field holds it. -/
def formEncode (text : List Char) : List Char := text.flatMap formChar

/-- What is written for a list of fields: a key with its value, or a key alone, which may be
empty. -/
inductive Field where
  | pair (key value : List Char)
  | bare (key : List Char)

/-- The text of a field. -/
def Field.text : Field → List Char
  | .pair key value => formEncode key ++ '=' :: formEncode value
  | .bare key => formEncode key

/-- The pair that a field stands for. A key alone has the empty value, and nothing at all is no
pair. -/
def Field.pair? : Field → Option (List Char × List Char)
  | .pair key value => some (key, value)
  | .bare [] => none
  | .bare key => some (key, [])

/-- Fields as they are written into a query. -/
def fieldsText (fields : List Field) : List Char := ['&'].intercalate (fields.map Field.text)

/-! ## The characters of a field -/

theorem isUnreserved_of_isFormPlain {c : Char} (plain : isFormPlain c = true) :
    isUnreserved c = true ∨ c = '*' := by
  simp only [isFormPlain, Bool.or_eq_true, decide_eq_true_eq] at plain
  rcases plain with (((word | rfl) | rfl) | rfl) | rfl
  · left
    simp [isUnreserved, word]
  · exact .inr rfl
  · exact .inl rfl
  · exact .inl rfl
  · exact .inl rfl

theorem writtenWith_encodeChar (c : Char) : WrittenWith ['%', '*'] (encodeChar isFormPlain c) := by
  have kept (c : Char) (plain : isFormPlain c = true) : isUnreserved c = true ∨ c ∈ ['%', '*'] := by
    refine (isUnreserved_of_isFormPlain plain).imp_right fun star => ?_
    simp [star]
  have whole := writtenWith_percentEncode List.mem_cons_self kept [c]
  rwa [percentEncode_cons, percentEncode, List.flatMap_nil, List.append_nil] at whole

theorem writtenWith_formEncode (text : List Char) :
    WrittenWith ['%', '*', '+'] (formEncode text) := by
  intro c member
  obtain ⟨d, -, inside⟩ := List.mem_flatMap.1 member
  unfold formChar at inside
  split at inside
  · have plus : c = '+' := List.mem_singleton.1 inside
    right
    simp [plus]
  · exact (writtenWith_encodeChar d).mono (by simp) c inside

theorem writtenWith_text (field : Field) : WrittenWith ['%', '*', '+', '='] field.text := by
  have side (text : List Char) : WrittenWith ['%', '*', '+', '='] (formEncode text) :=
    (writtenWith_formEncode text).mono (by simp)
  cases field with
  | bare key => exact side key
  | pair key value => exact (side key).append (.cons (.inr (by simp)) (side value))

theorem writtenWith_fieldsText (fields : List Field) :
    WrittenWith ['%', '*', '+', '=', '&'] (fieldsText fields) := by
  intro c member
  rcases Text.mem_of_mem_intercalate member with between | ⟨text, inside, found⟩
  · have mark : c = '&' := List.mem_singleton.1 between
    right
    simp [mark]
  · obtain ⟨field, -, rfl⟩ := List.mem_map.1 inside
    exact (writtenWith_text field).mono (by simp) c found

/-! ## One side of a pair -/

theorem formEncode_eq_nil_iff {text : List Char} : formEncode text = [] ↔ text = [] := by
  constructor
  · intro none
    cases text with
    | nil => rfl
    | cons c text =>
      have first : formChar c = [] := (List.append_eq_nil_iff.1 none).1
      have long := length_encodeChar_pos isFormPlain c
      unfold formChar at first
      split at first
      · cases first
      · rw [first] at long
        simp at long
  · rintro rfl
    rfl

/-- A blank that stands for `+` is the only thing that reading as blanks changes. -/
theorem map_formChar (c : Char) :
    (formChar c).map (fun c => if c = '+' then ' ' else c) =
      encodeChar (fun c => isFormPlain c || c = ' ') c := by
  unfold formChar
  split
  case isTrue blank =>
    rw [blank]
    rfl
  case isFalse other =>
    have same : encodeChar (fun c => isFormPlain c || c = ' ') c = encodeChar isFormPlain c := by
      simp [encodeChar, other]
    have unlike : ∀ d ∈ encodeChar isFormPlain c, d ≠ '+' := by
      intro d member
      exact ne_of_mem_of_not_mem member ((writtenWith_encodeChar c).not_mem (by decide) rfl)
    rw [same]
    refine (List.map_congr_left fun d member => ?_).trans (List.map_id _)
    exact if_neg (unlike d member)

/-- **A text is read back from a form field.** -/
theorem formDecode_formEncode (text : List Char) : formDecode (formEncode text) = text := by
  have spaced : (formEncode text).map (fun c => if c = '+' then ' ' else c) =
      percentEncode (fun c => isFormPlain c || c = ' ') text := by
    unfold formEncode percentEncode
    rw [List.map_flatMap]
    congr 1
    funext c
    exact map_formChar c
  have plain (c : Char) (kept : (isFormPlain c || c = ' ') = true) : c.toNat < 128 ∧ c ≠ '%' := by
    rcases Bool.or_eq_true_iff.1 kept with word | blank
    · rcases isUnreserved_of_isFormPlain word with unreserved | rfl
      · exact plain_of_isUnreserved c unreserved
      · decide
    · have same : c = ' ' := of_decide_eq_true blank
      rw [same]
      decide
  unfold formDecode
  simp only [spaced, percentDecode_percentEncode plain, Text.readUtf8Lossy_utf8Chars]

/-! ## Whole queries -/

/-- A field is read as the pair that it stands for. -/
theorem formPair_text (field : Field) (filled : field.text ≠ []) :
    field.pair? = some (formPair field.text) := by
  have unmarked (key : List Char) : '=' ∉ formEncode key :=
    (writtenWith_formEncode key).not_mem (by decide) rfl
  unfold formPair
  cases field with
  | pair key value =>
    have cut : Text.splitOnce ['='] (formEncode key ++ ['='] ++ formEncode value) =
        some (formEncode key, formEncode value) := by
      apply Text.splitOnce_append (List.cons_ne_nil _ _)
      intro inside
      rw [List.dropLast_singleton, List.append_nil] at inside
      exact unmarked key (inside.mem List.mem_cons_self)
    have text : (Field.pair key value).text = formEncode key ++ ['='] ++ formEncode value := by
      simp [Field.text]
    rw [text, cut]
    simp only [formDecode_formEncode, Field.pair?]
  | bare key =>
    have uncut : Text.splitOnce ['='] (formEncode key) = none := by
      rw [Text.splitOnce_eq_none_iff]
      intro inside
      exact unmarked key (inside.mem List.mem_cons_self)
    have text : (Field.bare key).text = formEncode key := rfl
    rw [text] at filled ⊢
    rw [uncut]
    simp only [formDecode_formEncode]
    cases key with
    | nil => exact absurd rfl filled
    | cons c key => rfl

theorem pair?_of_text_eq_nil {field : Field} (empty : field.text = []) : field.pair? = none := by
  cases field with
  | pair key value => simp [Field.text] at empty
  | bare key =>
    have none : key = [] := formEncode_eq_nil_iff.1 empty
    rw [none]
    rfl

/-- **Fields are read back as the pairs that they stand for**, in their order. -/
theorem formPairs_fieldsText (fields : List Field) :
    formPairs (fieldsText fields) = fields.filterMap Field.pair? := by
  have each : ((fields.map Field.text).filter fun piece => !piece.isEmpty).map formPair =
      fields.filterMap Field.pair? := by
    induction fields with
    | nil => rfl
    | cons field fields ih =>
      by_cases empty : field.text = []
      · rw [List.map_cons, List.filter_cons_of_neg (by simp [empty]), ih,
          List.filterMap_cons_none (pair?_of_text_eq_nil empty)]
      · rw [List.map_cons, List.filter_cons_of_pos (by simp [empty]), List.map_cons, ih,
          List.filterMap_cons_some (formPair_text field empty)]
  unfold formPairs
  cases fields with
  | nil => rfl
  | cons field fields =>
    have cut : Text.pieces '&' (fieldsText (field :: fields)) = (field :: fields).map Field.text := by
      rw [Text.pieces_eq_splitOn]
      refine List.splitOn_intercalate '&' (fun text member => ?_) (by simp)
      obtain ⟨one, -, rfl⟩ := List.mem_map.1 member
      have alone : WrittenWith ['%', '*', '+', '='] one.text := writtenWith_text one
      exact alone.not_mem (by decide) rfl
    rw [cut, each]

end Gangway.Uri
