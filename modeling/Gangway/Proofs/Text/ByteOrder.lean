import Gangway.Proofs.Text.Utf8
import Mathlib.Data.String.Basic

/-!
# The order of texts is that of their bytes

UTF-8 keeps the order of characters: the character of lesser number has the lesser bytes, whatever
follows (`Spells.append_lt`). So texts stand in the order of their bytes (`utf8_lt_utf8_iff`).
-/

namespace Gangway.Text

theorem ofNat_lt_ofNat_iff {m n : Nat} (left : m < 256) (right : n < 256) :
    UInt8.ofNat m < UInt8.ofNat n ↔ m < n := by
  rw [UInt8.lt_iff_toNat_lt, toNat_ofNat_of_lt left, toNat_ofNat_of_lt right]

theorem ofNat_eq_ofNat_iff {m n : Nat} (left : m < 256) (right : n < 256) :
    UInt8.ofNat m = UInt8.ofNat n ↔ m = n := by
  rw [← UInt8.toNat_inj, toNat_ofNat_of_lt left, toNat_ofNat_of_lt right]

/-- The bytes of the character with a number: a byte that tells how many follow, and six bits in
each that follows. -/
inductive Spells (number : Nat) : Bytes → Prop where
  | one (most : number ≤ 0x7F) : Spells number [UInt8.ofNat number]
  | two (least : 0x7F < number) (most : number ≤ 0x7FF) :
    Spells number [UInt8.ofNat (number / 64 + 192), UInt8.ofNat (number % 64 + 128)]
  | three (least : 0x7FF < number) (most : number ≤ 0xFFFF) :
    Spells number [UInt8.ofNat (number / 4096 + 224), UInt8.ofNat (number / 64 % 64 + 128),
      UInt8.ofNat (number % 64 + 128)]
  | four (least : 0xFFFF < number) (most : number < 0x110000) :
    Spells number [UInt8.ofNat (number / 262144 + 240), UInt8.ofNat (number / 4096 % 64 + 128),
      UInt8.ofNat (number / 64 % 64 + 128), UInt8.ofNat (number % 64 + 128)]

theorem spells_utf8EncodeChar (c : Char) : Spells c.toNat (String.utf8EncodeChar c) := by
  have most : c.toNat < 0x110000 := by
    have valid : c.toNat < 0xD800 ∨ 0xDFFF < c.toNat ∧ c.toNat < 0x110000 := c.valid
    omega
  have number : c.val.toNat = c.toNat := rfl
  rw [String.utf8EncodeChar, number]
  split
  case isTrue one => exact .one one
  split
  case isTrue two =>
    rw [Nat.mod_eq_of_lt (by omega : c.toNat / 64 < 32)]
    exact .two (by omega) two
  split
  case isTrue three =>
    rw [Nat.mod_eq_of_lt (by omega : c.toNat / 4096 < 16)]
    exact .three (by omega) three
  case isFalse four =>
    rw [Nat.mod_eq_of_lt (by omega : c.toNat / 262144 < 8)]
    exact .four (by omega) most

/-- The lesser number has the lesser bytes, whatever follows them. -/
theorem Spells.append_lt {m n : Nat} {front back : Bytes} (left : Spells m front)
    (right : Spells n back) (less : m < n) (more rest : Bytes) : front ++ more < back ++ rest := by
  -- Of fewer bytes the first is less; in as many the first bits that differ decide.
  cases left <;> cases right <;>
    simp (disch := omega) only [List.cons_append, List.cons_lt_cons_iff, ofNat_lt_ofNat_iff,
      ofNat_eq_ofNat_iff] <;>
    omega

/-- A greater text has the greater bytes. -/
theorem utf8Chars_lt_of_lt {text other : List Char} (less : text < other) :
    utf8Chars text < utf8Chars other := by
  induction less with
  | @nil c rest =>
    obtain ⟨lead, more, bytes⟩ := List.exists_cons_of_ne_nil (utf8Chars_singleton_ne_nil c)
    rw [utf8Chars_cons, bytes]
    exact List.nil_lt_cons lead _
  | @rel c text d other less =>
    rw [utf8Chars_cons c text, utf8Chars_cons d other]
    simp only [utf8Chars, List.flatMap_singleton]
    exact (spells_utf8EncodeChar c).append_lt (spells_utf8EncodeChar d) less _ _
  | @cons c text other less ih =>
    rw [utf8Chars_cons c text, utf8Chars_cons c other]
    exact List.append_left_lt ih

/-- **Texts stand in the order of their bytes.** -/
theorem utf8_lt_utf8_iff {s t : String} : utf8 s < utf8 t ↔ s < t := by
  refine ⟨fun less => ?_, fun less => utf8Chars_lt_of_lt (String.lt_iff_toList_lt.1 less)⟩
  rcases lt_trichotomy s t with smaller | rfl | greater
  · exact smaller
  · exact absurd less (List.lt_irrefl _)
  · have more := utf8Chars_lt_of_lt (String.lt_iff_toList_lt.1 greater)
    exact absurd less (List.lt_asymm more)

theorem utf8_le_utf8_iff {s t : String} : utf8 s ≤ utf8 t ↔ s ≤ t := by
  rw [← List.not_lt, utf8_lt_utf8_iff, not_lt]

end Gangway.Text
