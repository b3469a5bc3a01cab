import Gangway.Text.Utf8

/-!
# What a text is written as

The bytes of a text are those of its characters one after the other, an ASCII character is its own
byte, two texts with the same bytes are the same, and a text is read back from its bytes
(`readParts_utf8Chars`).
-/

namespace Gangway.Text

@[simp] theorem utf8Chars_append (text more : List Char) :
    utf8Chars (text ++ more) = utf8Chars text ++ utf8Chars more :=
  List.flatMap_append

theorem utf8Chars_cons (c : Char) (text : List Char) :
    utf8Chars (c :: text) = utf8Chars [c] ++ utf8Chars text :=
  utf8Chars_append [c] text

theorem utf8Chars_injective {text other : List Char} (same : utf8Chars text = utf8Chars other) :
    text = other := by
  have bytes : text.utf8Encode = other.utf8Encode := congrArg List.toByteArray same
  have strings : String.ofList text = String.ofList other := by
    rw [← String.toByteArray_inj, String.toByteArray_ofList, String.toByteArray_ofList, bytes]
  exact String.ofList_injective strings

theorem utf8Chars_ascii {c : Char} (ascii : c.toNat < 128) :
    utf8Chars [c] = [UInt8.ofNat c.toNat] := by
  unfold utf8Chars
  rw [List.flatMap_singleton]
  unfold String.utf8EncodeChar
  exact if_pos (Nat.le_of_lt_succ ascii)

theorem utf8Chars_singleton_ne_nil (c : Char) : utf8Chars [c] ≠ [] := by
  rw [utf8Chars, List.flatMap_singleton]
  exact String.utf8EncodeChar_ne_nil

/-! ## Reading what was written -/

theorem toNat_ofNat_of_lt {n : Nat} (small : n < 256) : (UInt8.ofNat n).toNat = n := by
  have reduced := UInt8.toNat_ofNat' (n := n)
  omega

theorem followers_one {n : Nat} (small : n < 128) :
    followers (UInt8.ofNat n) = some (0, 0x80, 0xBF) := by
  have all : ∀ n : Fin 128, followers (UInt8.ofNat n.val) = some (0, 0x80, 0xBF) := by decide
  exact all ⟨n, small⟩

theorem followers_two {d : Nat} (least : 2 ≤ d) (small : d < 32) :
    followers (UInt8.ofNat (d + 192)) = some (1, 0x80, 0xBF) := by
  have all : ∀ d : Fin 32, 2 ≤ d.val →
      followers (UInt8.ofNat (d.val + 192)) = some (1, 0x80, 0xBF) := by decide
  exact all ⟨d, small⟩ least

/-- The second byte of three is bounded where fewer bytes or a surrogate would be written. -/
theorem followers_three {d : Nat} (small : d < 16) :
    followers (UInt8.ofNat (d + 224)) =
      some (2, if d = 0 then 0xA0 else 0x80, if d = 13 then 0x9F else 0xBF) := by
  have all : ∀ d : Fin 16, followers (UInt8.ofNat (d.val + 224)) =
      some (2, if d.val = 0 then 0xA0 else 0x80, if d.val = 13 then 0x9F else 0xBF) := by decide
  exact all ⟨d, small⟩

/-- The second byte of four is bounded where fewer bytes or no character would be written. -/
theorem followers_four {d : Nat} (small : d < 5) :
    followers (UInt8.ofNat (d + 240)) =
      some (3, if d = 0 then 0x90 else 0x80, if d = 4 then 0x8F else 0xBF) := by
  have all : ∀ d : Fin 5, followers (UInt8.ofNat (d.val + 240)) =
      some (3, if d.val = 0 then 0x90 else 0x80, if d.val = 4 then 0x8F else 0xBF) := by decide
  exact all ⟨d, small⟩

/-- One continuation byte adds its six bits. -/
theorem readFollowers_ofNat {low high : UInt8} {v : Nat} (bits count : Nat) (rest : Bytes)
    (small : v < 64) (least : low.toNat ≤ v + 128) (most : v + 128 ≤ high.toNat) :
    readFollowers low high bits (count + 1) (UInt8.ofNat (v + 128) :: rest) =
      readFollowers 0x80 0xBF (bits * 64 + v) count rest := by
  have number : (UInt8.ofNat (v + 128)).toNat = v + 128 := toNat_ofNat_of_lt (by omega)
  have inside : low ≤ UInt8.ofNat (v + 128) ∧ UInt8.ofNat (v + 128) ≤ high := by
    simp only [UInt8.le_iff_toNat_le, number]
    exact ⟨least, most⟩
  have six : (v + 128) % 64 = v := by omega
  rw [readFollowers, if_pos inside, number, six]

theorem readFollowers_mod (bits count v : Nat) (rest : Bytes) :
    readFollowers 0x80 0xBF bits (count + 1) (UInt8.ofNat (v % 64 + 128) :: rest) =
      readFollowers 0x80 0xBF (bits * 64 + v % 64) count rest := by
  apply readFollowers_ofNat
  · omega
  · show 0x80 ≤ v % 64 + 128
    omega
  · show v % 64 + 128 ≤ 0xBF
    omega

/-- A character is read if its number is, from the bits of the leading byte on. -/
theorem readChar_of_readFollowers {c : Char} {lead low high : UInt8} {count : Nat}
    {bytes rest : Bytes} (first : followers lead = some (count, low, high))
    (read : readFollowers low high (leadBits lead count) count bytes = (some c.toNat, rest)) :
    readChar lead bytes = (some c, rest) := by
  simp only [readChar, first, read, Option.map_some, Char.ofNat_toNat]

/-- A character is read back from its bytes. -/
theorem exists_readChar (c : Char) (rest : Bytes) :
    ∃ lead more, utf8Chars [c] = lead :: more ∧ readChar lead (more ++ rest) = (some c, rest) := by
  have valid : c.toNat < 0xD800 ∨ 0xDFFF < c.toNat ∧ c.toNat < 0x110000 := c.valid
  have bytes : utf8Chars [c] = String.utf8EncodeChar c := List.flatMap_singleton ..
  have number : c.val.toNat = c.toNat := rfl
  rw [bytes, String.utf8EncodeChar, number]
  split
  case isTrue one =>
    refine ⟨_, _, rfl, readChar_of_readFollowers (followers_one (by omega)) ?_⟩
    simp only [readFollowers, leadBits, List.nil_append]
    rw [toNat_ofNat_of_lt (by omega)]
  split
  case isTrue two =>
    have lead : c.toNat / 64 % 32 < 32 := Nat.mod_lt _ (by decide)
    refine ⟨_, _, rfl, readChar_of_readFollowers (followers_two (by omega) lead) ?_⟩
    rw [List.cons_append, readFollowers_mod, readFollowers, leadBits, toNat_ofNat_of_lt (by omega)]
    congr 2
    omega
  split
  case isTrue three =>
    have lead : c.toNat / 4096 % 16 < 16 := Nat.mod_lt _ (by decide)
    refine ⟨_, _, rfl, readChar_of_readFollowers (followers_three lead) ?_⟩
    rw [List.cons_append, List.cons_append, readFollowers_ofNat, readFollowers_mod, readFollowers,
      leadBits, toNat_ofNat_of_lt (by omega)]
    · congr 2
      omega
    · omega
    · split
      · show 0xA0 ≤ c.toNat / 64 % 64 + 128
        omega
      · show 0x80 ≤ c.toNat / 64 % 64 + 128
        omega
    · split
      · show c.toNat / 64 % 64 + 128 ≤ 0x9F
        omega
      · show c.toNat / 64 % 64 + 128 ≤ 0xBF
        omega
  case isFalse four =>
    have lead : c.toNat / 262144 % 8 < 5 := by omega
    refine ⟨_, _, rfl, readChar_of_readFollowers (followers_four lead) ?_⟩
    have bits : leadBits (UInt8.ofNat (c.toNat / 262144 % 8 + 240)) 3 = c.toNat / 262144 % 8 := by
      show (UInt8.ofNat (c.toNat / 262144 % 8 + 240)).toNat % 8 = _
      rw [toNat_ofNat_of_lt (by omega)]
      omega
    rw [bits, List.cons_append, List.cons_append, List.cons_append, readFollowers_ofNat,
      readFollowers_mod, readFollowers_mod, readFollowers]
    · congr 2
      omega
    · omega
    · split
      · show 0x90 ≤ c.toNat / 4096 % 64 + 128
        omega
      · show 0x80 ≤ c.toNat / 4096 % 64 + 128
        omega
    · split
      · show c.toNat / 4096 % 64 + 128 ≤ 0x8F
        omega
      · show c.toNat / 4096 % 64 + 128 ≤ 0xBF
        omega

/-- A character whose bytes are ASCII is one of them. -/
theorem exists_byte_of_ascii {c : Char} (ascii : ∀ b ∈ utf8Chars [c], b.toNat < 128) :
    ∃ b ∈ utf8Chars [c], c = Char.ofNat b.toNat := by
  obtain ⟨lead, more, bytes, read⟩ := exists_readChar c []
  have member : lead ∈ utf8Chars [c] := by
    rw [bytes]
    exact List.mem_cons_self
  have first := followers_one (ascii lead member)
  rw [UInt8.ofNat_toNat] at first
  simp only [readChar, first, readFollowers, leadBits, Option.map_some, Prod.mk.injEq,
    Option.some.injEq] at read
  exact ⟨lead, member, read.1.symm⟩

theorem le_toNat_ofNat {n base : Nat} (least : 128 ≤ base) (most : n + base < 256) :
    128 ≤ (UInt8.ofNat (n + base)).toNat := by
  rw [toNat_ofNat_of_lt most]
  omega

/-- A character beyond ASCII is written with bytes beyond ASCII. -/
theorem le_toNat_of_mem_utf8Chars {c : Char} (beyond : 128 ≤ c.toNat) :
    ∀ b ∈ utf8Chars [c], 128 ≤ b.toNat := by
  have bytes : utf8Chars [c] = String.utf8EncodeChar c := List.flatMap_singleton ..
  have number : c.val.toNat = c.toNat := rfl
  rw [bytes, String.utf8EncodeChar, number, if_neg (by omega)]
  split
  case isTrue two =>
    refine List.forall_mem_cons.2 ⟨le_toNat_ofNat (by decide) (by omega), ?_⟩
    exact List.forall_mem_singleton.2 (le_toNat_ofNat (by decide) (by omega))
  split
  case isTrue three =>
    refine List.forall_mem_cons.2 ⟨le_toNat_ofNat (by decide) (by omega), ?_⟩
    refine List.forall_mem_cons.2 ⟨le_toNat_ofNat (by decide) (by omega), ?_⟩
    exact List.forall_mem_singleton.2 (le_toNat_ofNat (by decide) (by omega))
  case isFalse four =>
    refine List.forall_mem_cons.2 ⟨le_toNat_ofNat (by decide) (by omega), ?_⟩
    refine List.forall_mem_cons.2 ⟨le_toNat_ofNat (by decide) (by omega), ?_⟩
    refine List.forall_mem_cons.2 ⟨le_toNat_ofNat (by decide) (by omega), ?_⟩
    exact List.forall_mem_singleton.2 (le_toNat_ofNat (by decide) (by omega))

/-- An ASCII byte of a text is one of its characters. -/
theorem mem_of_mem_utf8Chars {text : List Char} {b : UInt8} (member : b ∈ utf8Chars text)
    (ascii : b.toNat < 128) : Char.ofNat b.toNat ∈ text := by
  obtain ⟨c, inside, byte⟩ := List.mem_flatMap.1 member
  have alone : b ∈ utf8Chars [c] := by
    rw [utf8Chars, List.flatMap_singleton]
    exact byte
  have small : c.toNat < 128 := by
    apply Nat.lt_of_not_le
    intro beyond
    have large := le_toNat_of_mem_utf8Chars beyond b alone
    omega
  rw [utf8Chars_ascii small, List.mem_singleton] at alone
  rw [alone, toNat_ofNat_of_lt (by omega), Char.ofNat_toNat]
  exact inside

/-- **A text is read back from its bytes.** -/
theorem readParts_utf8Chars (text : List Char) : readParts (utf8Chars text) = text.map some := by
  induction text with
  | nil => rw [utf8Chars, List.flatMap_nil, readParts, List.map_nil]
  | cons c text ih =>
    obtain ⟨lead, more, bytes, read⟩ := exists_readChar c (utf8Chars text)
    rw [utf8Chars_cons, bytes, List.cons_append, readParts, read, ih, List.map_cons]

theorem readUtf8Lossy_utf8Chars (text : List Char) : readUtf8Lossy (utf8Chars text) = text := by
  rw [readUtf8Lossy, readParts_utf8Chars, List.map_map]
  exact List.map_id _

end Gangway.Text
