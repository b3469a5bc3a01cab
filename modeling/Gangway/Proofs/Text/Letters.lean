import Gangway.Text.Case
import Mathlib.Data.List.Forall2

/-!
# Texts that are alike in all but letter case

Two texts have the same small form exactly when they are alike character by character, where the two
forms of one ASCII letter count as the same (`lower_eq_lower_iff`).
-/

namespace Gangway.Text

/-- The small ASCII letters with their capitals. -/
def letterForms : List (Char × Char) :=
  "abcdefghijklmnopqrstuvwxyz".toList.zip "ABCDEFGHIJKLMNOPQRSTUVWXYZ".toList

/-- Two characters are the same, or the two forms of one ASCII letter. -/
def SameLetter (c d : Char) : Prop := c = d ∨ (c, d) ∈ letterForms ∨ (d, c) ∈ letterForms

/-- Two texts are alike up to the case of ASCII letters. -/
def AlikeInCase : List Char → List Char → Prop := List.Forall₂ SameLetter

theorem mem_letterForms_of_capital {c : Char} (capital : 'A' ≤ c ∧ c ≤ 'Z') :
    (lowerChar c, c) ∈ letterForms := by
  have all : ∀ i : Fin 26,
      (lowerChar (Char.ofNat (i.val + 65)), Char.ofNat (i.val + 65)) ∈ letterForms := by
    decide
  have least : 65 ≤ c.toNat := UInt32.le_iff_toNat_le.1 capital.1
  have most : c.toNat ≤ 90 := UInt32.le_iff_toNat_le.1 capital.2
  have listed := all ⟨c.toNat - 65, by omega⟩
  rwa [Nat.sub_add_cancel least, Char.ofNat_toNat] at listed

theorem lowerChar_of_mem_letterForms {small capital : Char}
    (listed : (small, capital) ∈ letterForms) :
    lowerChar small = small ∧ lowerChar capital = small := by
  have all : ∀ forms ∈ letterForms,
      lowerChar forms.1 = forms.1 ∧ lowerChar forms.2 = forms.1 := by
    decide
  exact all _ listed

theorem lowerChar_eq_or_mem (c : Char) : lowerChar c = c ∨ (lowerChar c, c) ∈ letterForms := by
  by_cases capital : 'A' ≤ c ∧ c ≤ 'Z'
  · exact .inr (mem_letterForms_of_capital capital)
  · exact .inl (if_neg capital)

/-- Only one capital belongs to a small letter. -/
theorem eq_of_mem_letterForms {small c d : Char} (first : (small, c) ∈ letterForms)
    (second : (small, d) ∈ letterForms) : c = d := by
  have all : ∀ forms ∈ letterForms, ∀ others ∈ letterForms, forms.1 = others.1 →
      forms.2 = others.2 := by
    decide
  exact all _ first _ second rfl

theorem lowerChar_eq_lowerChar_iff {c d : Char} : lowerChar c = lowerChar d ↔ SameLetter c d := by
  constructor
  · intro same
    rcases lowerChar_eq_or_mem c with plain | capital
    · rcases lowerChar_eq_or_mem d with plain' | capital'
      · exact .inl (plain.symm.trans (same.trans plain'))
      · rw [← same, plain] at capital'
        exact .inr (.inl capital')
    · rcases lowerChar_eq_or_mem d with plain' | capital'
      · rw [same, plain'] at capital
        exact .inr (.inr capital)
      · rw [same] at capital
        exact .inl (eq_of_mem_letterForms capital capital')
  · rintro (rfl | listed | listed)
    · rfl
    · obtain ⟨small, capital⟩ := lowerChar_of_mem_letterForms listed
      exact small.trans capital.symm
    · obtain ⟨small, capital⟩ := lowerChar_of_mem_letterForms listed
      exact capital.trans small.symm

/-- **The small forms of two texts are the same exactly when the texts are alike up to case.** -/
theorem lower_eq_lower_iff {text other : List Char} :
    lower text = lower other ↔ AlikeInCase text other := by
  unfold lower AlikeInCase
  rw [← List.forall₂_eq_eq_eq, List.forall₂_map_left_iff, List.forall₂_map_right_iff]
  simp only [lowerChar_eq_lowerChar_iff]

theorem lowerString_eq_lowerString_iff {s t : String} :
    lowerString s = lowerString t ↔ AlikeInCase s.toList t.toList := by
  unfold lowerString
  rw [String.ofList_inj, lower_eq_lower_iff]

theorem lowerChar_lowerChar (c : Char) : lowerChar (lowerChar c) = lowerChar c := by
  rcases lowerChar_eq_or_mem c with plain | capital
  · rw [plain, plain]
  · exact (lowerChar_of_mem_letterForms capital).1

theorem lower_lower (text : List Char) : lower (lower text) = lower text := by
  unfold lower
  rw [List.map_map]
  exact List.map_congr_left fun c _ => lowerChar_lowerChar c

theorem lower_eq_self {text : List Char} (small : ∀ c ∈ text, ¬ ('A' ≤ c ∧ c ≤ 'Z')) :
    lower text = text := by
  have same : ∀ c ∈ text, lowerChar c = id c := fun c member => if_neg (small c member)
  rw [lower, List.map_congr_left same, List.map_id]

/-! ## Characters with one form -/

/-- The character is no ASCII letter. -/
def Caseless (c : Char) : Prop := ∀ forms ∈ letterForms, forms.1 ≠ c ∧ forms.2 ≠ c

instance (c : Char) : Decidable (Caseless c) :=
  inferInstanceAs (Decidable (∀ forms ∈ letterForms, _))

theorem SameLetter.symm {c d : Char} (same : SameLetter c d) : SameLetter d c := by
  rcases same with rfl | listed | listed
  · exact .inl rfl
  · exact .inr (.inr listed)
  · exact .inr (.inl listed)

theorem SameLetter.eq_of_caseless {c d : Char} (same : SameLetter c d) (plain : Caseless d) :
    c = d := by
  rcases same with rfl | listed | listed
  · rfl
  · exact absurd rfl (plain _ listed).2
  · exact absurd rfl (plain _ listed).1

/-- A character that is no letter stands where it stands in a text that is alike. -/
theorem SameLetter.eq_iff {c d mark : Char} (same : SameLetter c d) (plain : Caseless mark) :
    c = mark ↔ d = mark := by
  constructor
  · rintro rfl
    exact same.symm.eq_of_caseless plain
  · rintro rfl
    exact same.eq_of_caseless plain

theorem AlikeInCase.isPrefix_iff {mark text other : List Char} (alike : AlikeInCase text other)
    (plain : ∀ c ∈ mark, Caseless c) : mark <+: text ↔ mark <+: other := by
  induction alike generalizing mark with
  | nil => exact Iff.rfl
  | cons same _ ih =>
    cases mark with
    | nil => simp
    | cons c mark =>
      obtain ⟨here, there⟩ := List.forall_mem_cons.1 plain
      rw [List.cons_prefix_cons, List.cons_prefix_cons, ih there, eq_comm, same.eq_iff here,
        eq_comm]

theorem AlikeInCase.refl (text : List Char) : AlikeInCase text text :=
  List.forall₂_same.2 fun _ _ => .inl rfl

/-- Texts are alike if they are alike between marks. -/
theorem AlikeInCase.intercalate {mark : List Char} {texts others : List (List Char)}
    (alike : List.Forall₂ AlikeInCase texts others) :
    AlikeInCase (mark.intercalate texts) (mark.intercalate others) := by
  induction alike with
  | nil => exact .nil
  | cons here rest ih =>
    cases rest with
    | nil => rwa [List.intercalate_singleton, List.intercalate_singleton]
    | cons next rest =>
      rw [List.intercalate_cons_cons, List.intercalate_cons_cons]
      exact List.rel_append (List.rel_append here (AlikeInCase.refl mark)) ih

/-- Only small letters come from another character. -/
theorem eq_of_lowerChar_eq {c mark : Char} (same : lowerChar c = mark)
    (unlike : ∀ forms ∈ letterForms, forms.1 ≠ mark) : c = mark := by
  rcases lowerChar_eq_or_mem c with plain | capital
  · exact plain.symm.trans same
  · exact absurd same (unlike _ capital)

end Gangway.Text
