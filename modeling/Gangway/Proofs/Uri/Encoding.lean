import Gangway.Proofs.Text.Utf8
import Gangway.Uri.Percent

/-!
# Percent-encoding and back

Decoding undoes encoding as long as the characters that are kept are ASCII and none of them is `%`.
A text is encoded as itself exactly if all its characters are kept, and a text that is encoded holds
nothing but characters that are kept and triples.
-/

namespace Gangway.Uri

open Gangway.Text (Bytes utf8Chars)

/-- The characters that stand for themselves in every part of a URI. -/
def isUnreserved (c : Char) : Bool :=
  c.isAlphanum || c = '-' || c = '.' || c = '_' || c = '~'

/-- The characters that stand for themselves in a path. -/
def isUnreservedOrSlash (c : Char) : Bool := isUnreserved c || c = '/'

variable {keeps : Char → Bool}

@[simp] theorem percentEncode_cons (keeps : Char → Bool) (c : Char) (text : List Char) :
    percentEncode keeps (c :: text) = encodeChar keeps c ++ percentEncode keeps text := rfl

theorem percentEncode_of_kept {text : List Char} (kept : ∀ c ∈ text, keeps c = true) :
    percentEncode keeps text = text := by
  induction text with
  | nil => rfl
  | cons c text ih =>
    have self : encodeChar keeps c = [c] := if_pos (kept c List.mem_cons_self)
    rw [percentEncode_cons, self, ih fun d member => kept d (List.mem_cons_of_mem c member)]
    rfl

theorem length_percentByte (b : UInt8) : (percentByte b).length = 3 := rfl

/-- A character that is not kept gets longer. -/
theorem length_encodeChar {c : Char} (changed : keeps c = false) :
    1 < (encodeChar keeps c).length := by
  have triples : encodeChar keeps c = (utf8Chars [c]).flatMap percentByte :=
    if_neg (by simp [changed])
  obtain ⟨b, bytes, same⟩ := List.exists_cons_of_ne_nil (Text.utf8Chars_singleton_ne_nil c)
  rw [triples, same, List.flatMap_cons, List.length_append, length_percentByte]
  omega

theorem length_encodeChar_pos (keeps : Char → Bool) (c : Char) :
    1 ≤ (encodeChar keeps c).length := by
  cases kept : keeps c with
  | true => simp [encodeChar, kept]
  | false => exact Nat.le_of_lt (length_encodeChar kept)

theorem length_le_length_percentEncode (keeps : Char → Bool) (text : List Char) :
    text.length ≤ (percentEncode keeps text).length := by
  induction text with
  | nil => exact Nat.le_refl 0
  | cons c text ih =>
    have first := length_encodeChar_pos keeps c
    rw [percentEncode_cons, List.length_append, List.length_cons]
    omega

/-- Nothing is encoded exactly if everything is kept. -/
theorem percentEncode_eq_self_iff {text : List Char} :
    percentEncode keeps text = text ↔ ∀ c ∈ text, keeps c = true := by
  refine ⟨fun same => ?_, percentEncode_of_kept⟩
  induction text with
  | nil => exact nofun
  | cons c text ih =>
    rw [percentEncode_cons] at same
    have kept : keeps c = true := by
      refine Bool.of_not_eq_false fun changed => ?_
      have longer := length_encodeChar changed
      have rest := length_le_length_percentEncode keeps text
      have lengths := congrArg List.length same
      rw [List.length_append, List.length_cons] at lengths
      omega
    have self : encodeChar keeps c = [c] := if_pos kept
    rw [self] at same
    exact List.forall_mem_cons.2 ⟨kept, ih (List.cons.inj same).2⟩

/-- The digits of a triple stand for themselves. -/
theorem isUnreserved_capital {value : Nat} (small : value < 16) :
    isUnreserved (Hex.capital value) = true := by
  have all : ∀ v : Fin 16, isUnreserved (Hex.capital v.val) = true := by decide
  exact all ⟨value, small⟩

/-! ## Decoding -/

theorem percentDecode_cons_of_ne {b : UInt8} (plain : b ≠ 0x25) (rest : Bytes) :
    percentDecode (b :: rest) = b :: percentDecode rest := by
  rw [percentDecode]
  rintro _ _ _ rfl
  exact absurd rfl plain

/-- The bytes of a triple are decoded to the byte that it encodes. -/
theorem percentDecode_percentByte (b : UInt8) (rest : Bytes) :
    percentDecode (utf8Chars (percentByte b) ++ rest) = b :: percentDecode rest := by
  have ascii : ∀ v : Fin 16, (Hex.capital v.val).toNat < 128 := by decide
  have read : ∀ v : Fin 16, hexByte? (UInt8.ofNat (Hex.capital v.val).toNat) = some v.val := by
    decide
  have bound := b.toNat_lt
  have high : b.toNat / 16 < 16 := by omega
  have low : b.toNat % 16 < 16 := Nat.mod_lt _ (by decide)
  have written : utf8Chars (percentByte b) =
      [0x25, UInt8.ofNat (Hex.capital (b.toNat / 16)).toNat,
        UInt8.ofNat (Hex.capital (b.toNat % 16)).toNat] := by
    rw [percentByte, Text.utf8Chars_cons, Text.utf8Chars_cons (Hex.capital (b.toNat / 16)),
      Text.utf8Chars_ascii (by decide), Text.utf8Chars_ascii (ascii ⟨_, high⟩),
      Text.utf8Chars_ascii (ascii ⟨_, low⟩)]
    rfl
  rw [written]
  change percentDecode (0x25 :: _ :: _ :: rest) = _
  rw [percentDecode, read ⟨_, high⟩, read ⟨_, low⟩]
  change UInt8.ofNat (b.toNat / 16 * 16 + b.toNat % 16) :: percentDecode rest = _
  rw [Nat.div_add_mod', UInt8.ofNat_toNat]

theorem percentDecode_percentBytes (bytes rest : Bytes) :
    percentDecode (utf8Chars (bytes.flatMap percentByte) ++ rest) =
      bytes ++ percentDecode rest := by
  induction bytes with
  | nil => rfl
  | cons b bytes ih =>
    rw [List.flatMap_cons, Text.utf8Chars_append, List.append_assoc, percentDecode_percentByte, ih]
    rfl

/-- Decoding gives the bytes of the text back that was encoded. -/
theorem percentDecode_percentEncode (plain : ∀ c, keeps c = true → c.toNat < 128 ∧ c ≠ '%')
    (text : List Char) : percentDecode (utf8Chars (percentEncode keeps text)) = utf8Chars text := by
  induction text with
  | nil => rfl
  | cons c text ih =>
    rw [percentEncode_cons, Text.utf8Chars_append, Text.utf8Chars_cons c text, ← ih]
    unfold encodeChar
    split
    case isTrue kept =>
      obtain ⟨ascii, percent⟩ := plain c kept
      have other : UInt8.ofNat c.toNat ≠ 0x25 := by
        intro same
        have number : c.toNat = '%'.toNat := by
          have := congrArg UInt8.toNat same
          simpa [Nat.mod_eq_of_lt (Nat.lt_trans ascii (by decide : 128 < 256))] using this
        exact percent (Char.toNat_inj.1 number)
      rw [Text.utf8Chars_ascii ascii]
      exact percentDecode_cons_of_ne other _
    case isFalse => exact percentDecode_percentBytes _ _

/-! ## The characters that stand for themselves -/

/-- What is true of every ASCII character is true of a character with so small a number. -/
theorem forall_ascii {p : Char → Prop} (all : ∀ n : Fin 128, p (Char.ofNat n)) {c : Char}
    (ascii : c.toNat < 128) : p c :=
  Char.ofNat_toNat c ▸ all ⟨c.toNat, ascii⟩

theorem ascii_of_isAlphanum {c : Char} (word : c.isAlphanum = true) : c.toNat < 128 := by
  have below {last : UInt32} (most : c.val ≤ last) (ascii : last.toNat < 128) : c.toNat < 128 :=
    Nat.lt_of_le_of_lt (UInt32.le_iff_toNat_le.1 most) ascii
  rcases Bool.or_eq_true_iff.1 word with alpha | digit
  · rcases Bool.or_eq_true_iff.1 alpha with upper | lower
    · exact below (of_decide_eq_true upper).2 (by decide)
    · exact below (of_decide_eq_true (Bool.and_eq_true_iff.1 lower).2) (by decide)
  · exact below (of_decide_eq_true (Bool.and_eq_true_iff.1 digit).2) (by decide)

theorem ascii_of_isUnreserved {c : Char} (unreserved : isUnreserved c = true) :
    c.toNat < 128 := by
  simp only [isUnreserved, Bool.or_eq_true, decide_eq_true_eq] at unreserved
  rcases unreserved with (((word | rfl) | rfl) | rfl) | rfl
  · exact ascii_of_isAlphanum word
  · decide
  · decide
  · decide
  · decide

/-- A character that stands for itself is no mark of a URI. -/
theorem ne_of_isUnreserved {c mark : Char} (unreserved : isUnreserved c = true)
    (reserved : isUnreserved mark = false) : c ≠ mark := by
  rintro rfl
  rw [unreserved] at reserved
  cases reserved

theorem plain_of_isUnreserved (c : Char) (unreserved : isUnreserved c = true) :
    c.toNat < 128 ∧ c ≠ '%' :=
  ⟨ascii_of_isUnreserved unreserved, ne_of_isUnreserved unreserved rfl⟩

/-- A character that stands for itself is visible, and user names, paths and hosts keep it. -/
theorem kept_of_isUnreserved {c : Char} (unreserved : isUnreserved c = true) :
    ' ' < c ∧ userKeeps c = true ∧ pathKeeps c = true ∧ hostKeeps c = true := by
  have all : ∀ n : Fin 128, isUnreserved (Char.ofNat n) = true → ' ' < Char.ofNat n ∧
      userKeeps (Char.ofNat n) = true ∧ pathKeeps (Char.ofNat n) = true ∧
      hostKeeps (Char.ofNat n) = true := by decide
  exact forall_ascii (p := fun c => isUnreserved c = true → ' ' < c ∧ userKeeps c = true ∧
    pathKeeps c = true ∧ hostKeeps c = true) all (ascii_of_isUnreserved unreserved) unreserved

/-! ## What a text is written with -/

/-- The text holds nothing but these marks and characters that stand for themselves. -/
def WrittenWith (marks text : List Char) : Prop := ∀ c ∈ text, isUnreserved c = true ∨ c ∈ marks

namespace WrittenWith

variable {marks text : List Char}

theorem visible (written : WrittenWith marks text) (shown : ∀ mark ∈ marks, ' ' < mark) :
    ∀ c ∈ text, ' ' < c := fun c member =>
  (written c member).elim (fun word => (kept_of_isUnreserved word).1) (shown c)

/-- Other marks stand nowhere in the text. -/
theorem not_mem (written : WrittenWith marks text) {mark : Char} (other : mark ∉ marks)
    (reserved : isUnreserved mark = false) : mark ∉ text := by
  intro member
  rcases written mark member with word | known
  · rw [word] at reserved
    cases reserved
  · exact other known

theorem nil : WrittenWith marks [] := List.forall_mem_nil _

theorem append {more : List Char} (written : WrittenWith marks text)
    (rest : WrittenWith marks more) : WrittenWith marks (text ++ more) := fun c member =>
  (List.mem_append.1 member).elim (written c) (rest c)

theorem cons {c : Char} (first : isUnreserved c = true ∨ c ∈ marks)
    (rest : WrittenWith marks text) : WrittenWith marks (c :: text) :=
  List.forall_mem_cons.2 ⟨first, rest⟩

theorem mono {others : List Char} (written : WrittenWith marks text) (more : marks ⊆ others) :
    WrittenWith others text := fun c member => (written c member).imp_right fun mark => more mark

end WrittenWith

/-- A character of an encoded text is kept of the text, or belongs to a triple. -/
theorem mem_of_mem_percentEncode {text : List Char} {c : Char}
    (member : c ∈ percentEncode keeps text) :
    c ∈ text ∧ keeps c = true ∨ c = '%' ∨ isUnreserved c = true := by
  obtain ⟨d, origin, inside⟩ := List.mem_flatMap.1 member
  unfold encodeChar at inside
  split at inside
  case isTrue kept =>
    cases List.mem_singleton.1 inside
    exact .inl ⟨origin, kept⟩
  case isFalse =>
    obtain ⟨b, -, digit⟩ := List.mem_flatMap.1 inside
    have bound := b.toNat_lt
    simp only [percentByte, List.mem_cons, List.not_mem_nil, or_false] at digit
    rcases digit with rfl | rfl | rfl
    · exact .inr (.inl rfl)
    · exact .inr (.inr (isUnreserved_capital (by omega)))
    · exact .inr (.inr (isUnreserved_capital (by omega)))

/-- What a text is encoded as is written with what is kept and `%`. -/
theorem writtenWith_percentEncode {marks : List Char} (percent : '%' ∈ marks)
    (kept : ∀ c, keeps c = true → isUnreserved c = true ∨ c ∈ marks) (text : List Char) :
    WrittenWith marks (percentEncode keeps text) := by
  intro c member
  rcases mem_of_mem_percentEncode member with ⟨-, kept'⟩ | rfl | word
  · exact kept c kept'
  · exact .inr percent
  · exact .inl word

theorem writtenWith_percentEncode_name (text : List Char) :
    WrittenWith ['%'] (percentEncode isUnreserved text) :=
  writtenWith_percentEncode List.mem_cons_self (fun _ => .inl) text

theorem writtenWith_percentEncode_path (text : List Char) :
    WrittenWith ['%', '/'] (percentEncode isUnreservedOrSlash text) := by
  refine writtenWith_percentEncode List.mem_cons_self (fun c kept => ?_) text
  refine (Bool.or_eq_true_iff.1 kept).imp_right fun slash => ?_
  rw [of_decide_eq_true slash]
  decide

end Gangway.Uri
