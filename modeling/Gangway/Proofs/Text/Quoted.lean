import Gangway.Proofs.Text.Cutting
import Gangway.Proofs.Text.Digits
import Gangway.Text.Quoted
import Mathlib.Tactic.SplitIfs

/-!
# What texts for diagnostics tell

A way to write values `Delimits` them if a value is told from any text that begins with it. So it is
with texts between quotes, as no quote stands bare inside them, with lists of such texts, and with the
words for what is present or absent. The text of a record then tells each of its fields
(`record_cons_iff`).
-/

namespace Gangway.Text

variable {α τ : Type}

/-- The value is told from the front of a text that begins with how it is written. -/
def Delimits [Append τ] (write : α → τ) : Prop :=
  ∀ ⦃one other : α⦄ ⦃rest rest' : τ⦄,
    write one ++ rest = write other ++ rest' → one = other ∧ rest = rest'

theorem delimits_iff_toList {write : α → String} :
    Delimits write ↔ Delimits fun value => (write value).toList := by
  constructor
  · intro delimits one other rest rest' same
    have texts : write one ++ String.ofList rest = write other ++ String.ofList rest' :=
      String.toList_inj.1 (by simpa using same)
    exact (delimits texts).imp_right String.ofList_inj.1
  · intro delimits one other rest rest' same
    have letters := congrArg String.toList same
    rw [String.toList_append, String.toList_append] at letters
    exact (delimits letters).imp_right String.toList_inj.1

theorem Delimits.append_eq_iff [Append τ] {write : α → τ} (delimits : Delimits write)
    {one other : α} {rest rest' : τ} :
    write one ++ rest = write other ++ rest' ↔ one = other ∧ rest = rest' := by
  constructor
  · exact fun same => delimits same
  · rintro ⟨rfl, rfl⟩
    rfl

theorem Delimits.injective {write : α → String} (delimits : Delimits write) :
    Function.Injective write :=
  fun _ _ same => (delimits ((String.append_left_inj "").2 same)).1

/-- Values one behind the other are told up to a mark that none of them begins with. -/
theorem Delimits.flatMap_concat {write : α → List Char} (delimits : Delimits write) {mark : Char}
    (opens : ∀ value rest rest', write value ++ rest ≠ mark :: rest') :
    Delimits fun values : List α => values.flatMap write ++ [mark] := by
  intro values others rest rest' same
  simp only [List.append_assoc, List.singleton_append] at same
  -- One list cannot end where the other goes on, as there the mark stands.
  induction values generalizing others with
  | nil =>
    cases others with
    | nil => exact ⟨rfl, (List.cons.inj same).2⟩
    | cons other others =>
      rw [List.flatMap_cons, List.append_assoc] at same
      exact absurd same.symm (opens other _ _)
  | cons value values ih =>
    rw [List.flatMap_cons, List.append_assoc] at same
    cases others with
    | nil => exact absurd same (opens value _ _)
    | cons other others =>
      rw [List.flatMap_cons, List.append_assoc] at same
      obtain ⟨rfl, later⟩ := delimits same
      exact (ih later).imp_left (congrArg (value :: ·))

/-! ## Characters between quotes -/

/-- The character that is meant by another behind a backslash. -/
def unescape? : Char → Option Char
  | '"' => some '"'
  | '\\' => some '\\'
  | 'n' => some '\n'
  | 'r' => some '\r'
  | 't' => some '\t'
  | '0' => some '\x00'
  | _ => none

/-- The character in front of a text between quotes, and what stands behind it. -/
def unquoteChar? : List Char → Option (Char × List Char)
  | '\\' :: 'u' :: '\x7b' :: rest =>
    let (digits, behind) := rest.span (· != '\x7d')
    (Hex.number? digits).map fun n => (Char.ofNat n, behind.tail)
  | '\\' :: letter :: rest => (unescape? letter).map (·, rest)
  | '"' :: _ => none
  | c :: rest => some (c, rest)
  | [] => none

theorem span_hexDigits_append (n : Nat) (rest : List Char) :
    (hexDigits n ++ '\x7d' :: rest).span (· != '\x7d') = (hexDigits n, '\x7d' :: rest) := by
  refine span_append (fun c member => ?_) (by simp)
  have alphanumeric := Hex.isAlphanum_of_mem_toDigits member
  refine bne_iff_ne.2 fun brace => ?_
  rw [brace] at alphanumeric
  cases alphanumeric

/-- A character is read back from how it stands between quotes. -/
theorem unquoteChar?_quoteChar (c : Char) (rest : List Char) :
    unquoteChar? (quoteChar c ++ rest) = some (c, rest) := by
  unfold quoteChar
  split_ifs with quote backslash feed back tab zero shown
  · rw [quote]
    rfl
  · rw [backslash]
    rfl
  · rw [feed]
    rfl
  · rw [back]
    rfl
  · rw [tab]
    rfl
  · have null : c = '\x00' := Char.toNat_inj.1 zero
    rw [null]
    rfl
  · simp [unquoteChar?, backslash]
  · simp only [List.cons_append, List.nil_append, List.append_assoc, unquoteChar?,
      span_hexDigits_append]
    rw [hexDigits, Hex.number?_toDigits, Option.map_some, Char.ofNat_toNat, List.tail_cons]

theorem quoteChar_delimits : Delimits quoteChar := by
  intro c d rest rest' same
  have read := congrArg unquoteChar? same
  rw [unquoteChar?_quoteChar, unquoteChar?_quoteChar] at read
  exact Prod.mk.inj (Option.some.inj read)

/-- No character between quotes begins with a bare quote. -/
theorem quoteChar_append_ne_quote (c : Char) (rest rest' : List Char) :
    quoteChar c ++ rest ≠ '"' :: rest' := by
  intro same
  have read := congrArg unquoteChar? same
  rw [unquoteChar?_quoteChar] at read
  cases read

/-! ## What stands in fields -/

/-- A quoted text ends at its first bare quote. -/
theorem quoted_delimits : Delimits quoted := by
  have inside := quoteChar_delimits.flatMap_concat quoteChar_append_ne_quote
  refine delimits_iff_toList.2 fun one other rest rest' same => ?_
  simp only [quoted, String.toList_ofList, List.cons_append, List.cons.injEq, true_and] at same
  exact (inside same).imp_left String.toList_inj.1

theorem quoted_opens (text : String) (rest rest' : List Char) :
    (quoted text).toList ++ rest ≠ ']' :: rest' := by
  simp [quoted]

/-- Texts that begin differently are different. -/
theorem append_ne_append {front front' : String} {c d : Char}
    (first : front.toList.head? = some c) (first' : front'.toList.head? = some d) (differ : c ≠ d)
    (rest rest' : String) : front ++ rest ≠ front' ++ rest' := by
  intro same
  have heads := congrArg (fun text => text.toList.head?) same
  simp only [String.toList_append, List.head?_append, first, first', Option.some_or,
    Option.some.injEq] at heads
  exact differ heads

/-- Two words that begin differently tell which of them it is. -/
theorem delimits_ite {yes no : String} {c d : Char} (first : yes.toList.head? = some c)
    (first' : no.toList.head? = some d) (differ : c ≠ d) :
    Delimits fun present : Bool => if present then yes else no := by
  intro one other rest rest' same
  have apart := append_ne_append first first' differ
  cases one with
  | false =>
    cases other with
    | false => exact ⟨rfl, (String.append_right_inj no).1 same⟩
    | true => exact absurd same.symm (apart _ _)
  | true =>
    cases other with
    | false => exact absurd same (apart _ _)
    | true => exact ⟨rfl, (String.append_right_inj yes).1 same⟩

theorem redacted_delimits : Delimits redacted := by
  have words : redacted = fun present => if present then redacted true else redacted false := by
    funext present
    cases present <;> rfl
  have first : (redacted true).toList.head? = some 'S' := by
    simp [redacted, optional]
  have first' : (redacted false).toList.head? = some 'N' := rfl
  rw [words]
  exact delimits_ite first first' (by decide)

theorem toList_intercalate_cons (first : String) (texts : List String) :
    (", ".intercalate (first :: texts)).toList =
      first.toList ++ texts.flatMap fun text => ',' :: ' ' :: text.toList := by
  induction texts generalizing first with
  | nil => simp
  | cons next texts ih =>
    rw [String.intercalate_cons_cons, String.toList_append, String.toList_append, ih next]
    simp

/-- Values between brackets are told one by one, and where they end. -/
theorem bracketed_delimits {write : α → String} (delimits : Delimits write)
    (opens : ∀ value rest rest', (write value).toList ++ rest ≠ ']' :: rest') :
    Delimits fun values : List α => bracketed (values.map write) := by
  have first := delimits_iff_toList.1 delimits
  -- A comma stands in front of every value but the first.
  have further : Delimits fun values : List α =>
      values.flatMap (fun value => ',' :: ' ' :: (write value).toList) ++ [']'] := by
    refine Delimits.flatMap_concat (fun one other rest rest' same => ?_) (by simp)
    exact first (List.cons.inj (List.cons.inj same).2).2
  refine delimits_iff_toList.2 fun one other rest rest' same => ?_
  simp only [bracketed, String.toList_append, List.append_assoc] at same
  replace same := List.append_cancel_left same
  cases one with
  | nil =>
    cases other with
    | nil => exact ⟨rfl, List.append_cancel_left (List.append_cancel_left same)⟩
    | cons b others =>
      rw [List.map_cons, toList_intercalate_cons, List.append_assoc] at same
      exact absurd same.symm (opens b _ _)
  | cons a values =>
    rw [List.map_cons, toList_intercalate_cons, List.append_assoc] at same
    cases other with
    | nil => exact absurd same (opens a _ _)
    | cons b others =>
      rw [List.map_cons, toList_intercalate_cons, List.append_assoc, List.flatMap_map,
        List.flatMap_map] at same
      obtain ⟨rfl, later⟩ := first same
      refine (further ?_).imp_left (congrArg (a :: ·))
      simpa using later

/-! ## Records -/

variable {write : α → String} {name field : String} {one other : α}
  {fields others : List (String × String)}

theorem record_inj {whole : Bool} :
    record name fields whole = record name others whole ↔
      ", ".intercalate (fields.map (fun (field, text) => field ++ ": " ++ text) ++
          if whole then [] else [".."]) =
        ", ".intercalate (others.map (fun (field, text) => field ++ ": " ++ text) ++
          if whole then [] else [".."]) := by
  unfold record
  rw [String.append_left_inj, String.append_right_inj]

/-- A record tells its first field. -/
theorem record_cons_iff (delimits : Delimits write) {whole : Bool}
    (more : fields ≠ [] ∨ whole = false) (more' : others ≠ [] ∨ whole = false) :
    record name ((field, write one) :: fields) whole =
        record name ((field, write other) :: others) whole ↔
      one = other ∧ record name fields whole = record name others whole := by
  have behind {fields : List (String × String)} (more : fields ≠ [] ∨ whole = false) :
      fields.map (fun (field, text) => field ++ ": " ++ text) ++
        (if whole then [] else [".."]) ≠ [] := by
    rcases more with some | opened
    · simp [some]
    · simp [opened]
  rw [record_inj, record_inj, List.map_cons, List.map_cons, List.cons_append, List.cons_append,
    String.intercalate_cons_of_ne_nil (behind more), String.intercalate_cons_of_ne_nil (behind more')]
  simp only [String.append_assoc, String.append_right_inj, delimits.append_eq_iff]

theorem openRecord_cons_iff (delimits : Delimits write) :
    record name ((field, write one) :: fields) false =
        record name ((field, write other) :: others) false ↔
      one = other ∧ record name fields false = record name others false :=
  record_cons_iff delimits (.inr rfl) (.inr rfl)

/-- A record without more fields tells its last one. -/
theorem record_singleton_iff (delimits : Delimits write) :
    record name [(field, write one)] true = record name [(field, write other)] true ↔
      one = other := by
  simp [record_inj, delimits.injective.eq_iff]

end Gangway.Text
