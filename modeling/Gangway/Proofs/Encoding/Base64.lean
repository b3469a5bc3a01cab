import Gangway.Encoding.Base64
import Gangway.Proofs.Text.Utf8
import Gangway.Text.Blank

/-!
# Base64 and back

The text of a sequence of bytes is read back as these bytes (`readStrict_write`). It is made of
symbols and padding, none of which means anything outside of base64.
-/

namespace Gangway.Base64

open Gangway.Text (Bytes utf8Chars)

/-! ## Bytes in groups -/

theorem sextetAt_symbol {value : Nat} (small : value < 64) (offset : Nat) :
    sextetAt offset (symbol value) = .ok value := by
  rw [sextetAt, sextet?_symbol small]

/-- The symbols of three bytes stand for these bytes. -/
theorem group_of_bytes (a b c : UInt8) :
    group (a.toNat / 4) (a.toNat % 4 * 16 + b.toNat / 16) (b.toNat % 16 * 4 + c.toNat / 64)
      (c.toNat % 64) = [a, b, c] := by
  have boundB := b.toNat_lt
  have boundC := c.toNat_lt
  have first : a.toNat / 4 * 4 + (a.toNat % 4 * 16 + b.toNat / 16) / 16 = a.toNat := by omega
  have second : (a.toNat % 4 * 16 + b.toNat / 16) % 16 * 16 + (b.toNat % 16 * 4 + c.toNat / 64) / 4 =
      b.toNat := by omega
  have third : (b.toNat % 16 * 4 + c.toNat / 64) % 4 * 64 + c.toNat % 64 = c.toNat := by omega
  unfold group
  rw [first, second, third]
  simp only [UInt8.ofNat_toNat]

theorem lastSymbols_symbol {value : Nat} (small : value < 64) (offset index : Nat) (rest : Bytes) :
    lastSymbols offset none index (symbol value :: rest) =
      (lastSymbols offset none (index + 1) rest).map ((symbol value, value) :: ·) := by
  rw [lastSymbols, if_neg (symbol_ne_pad small)]
  simp only [sextetAt_symbol small, bind, Except.bind]
  cases lastSymbols offset none (index + 1) rest with
  | error fault => rfl
  | ok symbols => rfl

/-- A last group with one byte in it. -/
theorem readLast_one {x y : Nat} (first : x < 64) (second : y < 64) (clean : y % 16 = 0)
    (offset : Nat) :
    readLast offset [symbol x, symbol y, pad, pad] = .ok [UInt8.ofNat (x * 4 + y / 16)] := by
  have symbols : lastSymbols offset none 0 [symbol x, symbol y, pad, pad] =
      .ok [(symbol x, x), (symbol y, y)] := by
    rw [lastSymbols_symbol first, lastSymbols_symbol second]
    rfl
  unfold readLast
  simp only [symbols, bind, Except.bind]
  rw [if_neg (by simp), if_neg (by simp [clean])]

/-- A last group with two bytes in it. -/
theorem readLast_two {x y z : Nat} (first : x < 64) (second : y < 64) (third : z < 64)
    (clean : z % 4 = 0) (offset : Nat) :
    readLast offset [symbol x, symbol y, symbol z, pad] =
      .ok [UInt8.ofNat (x * 4 + y / 16), UInt8.ofNat (y % 16 * 16 + z / 4)] := by
  have symbols : lastSymbols offset none 0 [symbol x, symbol y, symbol z, pad] =
      .ok [(symbol x, x), (symbol y, y), (symbol z, z)] := by
    rw [lastSymbols_symbol first, lastSymbols_symbol second, lastSymbols_symbol third]
    rfl
  unfold readLast
  simp only [symbols, bind, Except.bind]
  rw [if_neg (by simp), if_neg (by simp [clean])]

/-- A full group, whether it is the last one or not. -/
theorem readFrom_group {w x y z : Nat} (first : w < 64) (second : x < 64) (third : y < 64)
    (fourth : z < 64) {rest bytes : Bytes} (offset : Nat)
    (read : readFrom (offset + 4) rest = .ok bytes) :
    readFrom offset (symbol w :: symbol x :: symbol y :: symbol z :: rest) =
      .ok (group w x y z ++ bytes) := by
  cases rest with
  | nil =>
    have none : bytes = [] := by
      cases read
      rfl
    have symbols : lastSymbols offset .none 0 [symbol w, symbol x, symbol y, symbol z] =
        .ok [(symbol w, w), (symbol x, x), (symbol y, y), (symbol z, z)] := by
      rw [lastSymbols_symbol first, lastSymbols_symbol second, lastSymbols_symbol third,
        lastSymbols_symbol fourth]
      rfl
    rw [readFrom, readLast, none, List.append_nil]
    · simp only [symbols, bind, Except.bind]
    · simp
  | cons e rest =>
    rw [readFrom]
    simp only [sextetAt_symbol first, sextetAt_symbol second, sextetAt_symbol third,
      sextetAt_symbol fourth, read, bind, Except.bind]

/-- Reading from an offset undoes writing. -/
theorem readFrom_write (bytes : Bytes) (offset : Nat) : readFrom offset (write bytes) = .ok bytes := by
  induction bytes using write.induct generalizing offset with
  | case1 => rfl
  | case2 a =>
    have bound := a.toNat_lt
    have whole : a.toNat / 4 * 4 + a.toNat % 4 * 16 / 16 = a.toNat := by omega
    rw [write, readFrom, readLast_one (by omega) (by omega) (by omega), whole, UInt8.ofNat_toNat]
    simp
  | case3 a b =>
    have boundA := a.toNat_lt
    have boundB := b.toNat_lt
    have first : a.toNat / 4 * 4 + (a.toNat % 4 * 16 + b.toNat / 16) / 16 = a.toNat := by omega
    have second : (a.toNat % 4 * 16 + b.toNat / 16) % 16 * 16 + b.toNat % 16 * 4 / 4 =
        b.toNat := by omega
    rw [write, readFrom, readLast_two (by omega) (by omega) (by omega) (by omega), first, second,
      UInt8.ofNat_toNat, UInt8.ofNat_toNat]
    simp
  | case4 a b c rest ih =>
    have boundA := a.toNat_lt
    have boundB := b.toNat_lt
    have boundC := c.toNat_lt
    rw [write, readFrom_group (by omega) (by omega) (by omega) (by omega) offset (ih (offset + 4)),
      group_of_bytes]
    rfl

theorem length_write (bytes : Bytes) : (write bytes).length % 4 = 0 := by
  induction bytes using write.induct with
  | case1 => rfl
  | case2 a => simp [write]
  | case3 a b => simp [write]
  | case4 a b c rest ih =>
    simp only [write, List.length_cons]
    omega

/-- **Bytes are read back from their text.** -/
theorem readStrict_write (bytes : Bytes) : readStrict (write bytes) = .ok bytes := by
  have groups := length_write bytes
  unfold readStrict
  split
  case h_1 last found =>
    rw [if_neg (by omega), readFrom_write]
  case h_2 empty =>
    have none : write bytes = [] := List.getLast?_eq_none_iff.1 empty
    have read := readFrom_write bytes 0
    rw [none] at read
    exact read

/-! ## The characters of a text -/

/-- The bytes that a base64 text is made of. -/
inductive IsDigit : UInt8 → Prop where
  | symbol {value : Nat} (small : value < 64) : IsDigit (symbol value)
  | pad : IsDigit pad

/-- The text of bytes is made of symbols and padding. -/
theorem isDigit_of_mem_write (bytes : Bytes) : ∀ b ∈ write bytes, IsDigit b := by
  induction bytes using write.induct with
  | case1 => simp [write]
  | case2 a =>
    have bound := a.toNat_lt
    have first : IsDigit (Base64.symbol (a.toNat / 4)) := .symbol (by omega)
    have second : IsDigit (Base64.symbol (a.toNat % 4 * 16)) := .symbol (by omega)
    simp [write, first, second, IsDigit.pad]
  | case3 a b =>
    have boundA := a.toNat_lt
    have boundB := b.toNat_lt
    have first : IsDigit (Base64.symbol (a.toNat / 4)) := .symbol (by omega)
    have second : IsDigit (Base64.symbol (a.toNat % 4 * 16 + b.toNat / 16)) := .symbol (by omega)
    have third : IsDigit (Base64.symbol (b.toNat % 16 * 4)) := .symbol (by omega)
    simp [write, first, second, third, IsDigit.pad]
  | case4 a b c rest ih =>
    have boundA := a.toNat_lt
    have boundB := b.toNat_lt
    have boundC := c.toNat_lt
    have first : IsDigit (Base64.symbol (a.toNat / 4)) := .symbol (by omega)
    have second : IsDigit (Base64.symbol (a.toNat % 4 * 16 + b.toNat / 16)) := .symbol (by omega)
    have third : IsDigit (Base64.symbol (b.toNat % 16 * 4 + c.toNat / 64)) := .symbol (by omega)
    have fourth : IsDigit (Base64.symbol (c.toNat % 64)) := .symbol (by omega)
    simp only [write, List.forall_mem_cons]
    exact ⟨first, second, third, fourth, ih⟩

/-- The character of the byte separates nothing. -/
def IsPlain (c : Char) : Prop := Text.isBlank c = false ∧ c ≠ ',' ∧ c ≠ '|'

instance (c : Char) : Decidable (IsPlain c) := inferInstanceAs (Decidable (_ ∧ _))

/-- What holds of padding and of the symbols holds of all bytes of a text. -/
theorem IsDigit.forall {p : UInt8 → Prop} (symbols : ∀ v : Fin 64, p (Base64.symbol v.val))
    (padding : p Base64.pad) {b : UInt8} (digit : IsDigit b) : p b := by
  cases digit with
  | pad => exact padding
  | @symbol value small => exact symbols ⟨value, small⟩

theorem IsDigit.ascii {b : UInt8} (digit : IsDigit b) : b.toNat < 128 :=
  digit.forall (p := fun b => b.toNat < 128) (by decide) (by decide)

theorem IsDigit.isPlain {b : UInt8} (digit : IsDigit b) : IsPlain (Char.ofNat b.toNat) :=
  digit.forall (p := fun b => IsPlain (Char.ofNat b.toNat)) (by decide) (by decide)

theorem IsDigit.utf8Chars {b : UInt8} (digit : IsDigit b) :
    Text.utf8Chars [Char.ofNat b.toNat] = [b] :=
  digit.forall (p := fun b => Text.utf8Chars [Char.ofNat b.toNat] = [b]) (by decide) (by decide)

/-- A text of symbols and padding holds nothing that separates. -/
theorem isPlain_of_mem_text {symbols : Bytes} (digits : ∀ b ∈ symbols, IsDigit b) {c : Char}
    (member : c ∈ (text symbols).toList) : IsPlain c := by
  unfold text at member
  rw [String.toList_ofList, List.mem_map] at member
  obtain ⟨b, inside, rfl⟩ := member
  exact (digits b inside).isPlain

/-- Nor does a text whose bytes are symbols and padding. -/
theorem isPlain_of_utf8Chars {text : List Char} (digits : ∀ b ∈ utf8Chars text, IsDigit b) {c : Char}
    (member : c ∈ text) : IsPlain c := by
  have bytes : ∀ b ∈ utf8Chars [c], IsDigit b := by
    intro b inside
    apply digits
    obtain ⟨front, rest, rfl⟩ := List.append_of_mem member
    rw [Text.utf8Chars_append, Text.utf8Chars_cons, List.mem_append, List.mem_append]
    exact .inr (.inl inside)
  obtain ⟨b, inside, rfl⟩ := Text.exists_byte_of_ascii fun b inside => (bytes b inside).ascii
  exact (bytes b inside).isPlain

/-- The bytes of a text are its symbols. -/
theorem utf8Chars_text {symbols : Bytes} (digits : ∀ b ∈ symbols, IsDigit b) :
    utf8Chars (text symbols).toList = symbols := by
  unfold text
  rw [String.toList_ofList]
  induction symbols with
  | nil => rfl
  | cons b symbols ih =>
    obtain ⟨first, rest⟩ := List.forall_mem_cons.1 digits
    rw [List.map_cons, Text.utf8Chars_cons, first.utf8Chars, ih rest]
    rfl

/-! ## Texts that are read -/

theorem isDigit_of_sextet? {b : UInt8} {value : Nat} (read : sextet? b = some value) :
    IsDigit b := by
  have all : ∀ n : Fin 256, ∀ value ∈ sextet? (UInt8.ofNat n.val),
      value < 64 ∧ UInt8.ofNat n.val = Base64.symbol value := by decide +kernel
  have back := all ⟨b.toNat, b.toNat_lt⟩ value
  rw [UInt8.ofNat_toNat] at back
  obtain ⟨small, same⟩ := back read
  rw [same]
  exact .symbol small

/-- Only symbols and padding are read as a group. -/
theorem isDigit_of_readGroup {a b c d : UInt8} {bytes : Bytes}
    (read : readGroup a b c d = some bytes) :
    IsDigit a ∧ IsDigit b ∧ IsDigit c ∧ IsDigit d := by
  obtain ⟨w, first, read⟩ := Option.bind_eq_some_iff.1 read
  obtain ⟨x, second, read⟩ := Option.bind_eq_some_iff.1 read
  refine ⟨isDigit_of_sextet? first, isDigit_of_sextet? second, ?_⟩
  split at read
  case isTrue last =>
    split at read
    case isTrue third =>
      rw [third, last]
      exact ⟨.pad, .pad⟩
    case isFalse =>
      obtain ⟨y, third, -⟩ := Option.bind_eq_some_iff.1 read
      rw [last]
      exact ⟨isDigit_of_sextet? third, .pad⟩
  case isFalse =>
    obtain ⟨y, third, read⟩ := Option.bind_eq_some_iff.1 read
    obtain ⟨z, fourth, -⟩ := Option.bind_eq_some_iff.1 read
    exact ⟨isDigit_of_sextet? third, isDigit_of_sextet? fourth⟩

/-- Only symbols and padding are read as groups. -/
theorem isDigit_of_readGroups {symbols bytes : Bytes} (read : readGroups symbols = some bytes) :
    ∀ b ∈ symbols, IsDigit b := by
  induction symbols using readGroups.induct generalizing bytes with
  | case1 => simp
  | case2 a b c d rest ih =>
    rw [readGroups] at read
    obtain ⟨front, group, read⟩ := Option.bind_eq_some_iff.1 read
    obtain ⟨more, groups, -⟩ := Option.bind_eq_some_iff.1 read
    obtain ⟨first, second, third, fourth⟩ := isDigit_of_readGroup group
    simp only [List.forall_mem_cons]
    exact ⟨first, second, third, fourth, ih groups⟩
  | case3 symbols short long =>
    unfold readGroups at read
    split at read
    · exact absurd rfl short
    · exact absurd rfl (long _ _ _ _ _)
    · cases read

end Gangway.Base64
