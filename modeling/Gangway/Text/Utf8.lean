/-!
# UTF-8

`utf8` writes a text as bytes. `readUtf8?` reads bytes back and refuses what no text is written as;
`readUtf8Lossy` reads every sequence of bytes, with U+FFFD for each maximal part of an ill-formed
sequence.
-/

namespace Gangway.Text

/-- A byte of a text or a file. -/
abbrev Bytes := List UInt8

/-- The bytes of a character list. -/
def utf8Chars (text : List Char) : Bytes := text.flatMap String.utf8EncodeChar

/-- The bytes of a string. -/
def utf8 (s : String) : Bytes := utf8Chars s.toList

/-- The character that stands for an ill-formed part. -/
def replacement : Char := Char.ofNat 0xFFFD

/-- How many bytes follow a leading byte, with the least and greatest second byte. -/
def followers (lead : UInt8) : Option (Nat × UInt8 × UInt8) :=
  if lead < 0x80 then some (0, 0x80, 0xBF)
  else if lead < 0xC2 then none
  else if lead < 0xE0 then some (1, 0x80, 0xBF)
  else if lead = 0xE0 then some (2, 0xA0, 0xBF)
  else if lead = 0xED then some (2, 0x80, 0x9F)
  else if lead < 0xF0 then some (2, 0x80, 0xBF)
  else if lead = 0xF0 then some (3, 0x90, 0xBF)
  else if lead < 0xF4 then some (3, 0x80, 0xBF)
  else if lead = 0xF4 then some (3, 0x80, 0x8F)
  else none

/-- The payload bits of a leading byte with the given number of followers. -/
def leadBits (lead : UInt8) : Nat → Nat
  | 0 => lead.toNat
  | 1 => lead.toNat % 0x20
  | 2 => lead.toNat % 0x10
  | _ => lead.toNat % 0x08

/-- Reads `count` continuation bytes onto the bits so far: the character's number, if all are there,
and what is left. -/
def readFollowers (low high : UInt8) (bits : Nat) : Nat → Bytes → Option Nat × Bytes
  | 0, rest => (some bits, rest)
  | _ + 1, [] => (none, [])
  | count + 1, b :: rest =>
    if low ≤ b ∧ b ≤ high then
      readFollowers 0x80 0xBF (bits * 0x40 + b.toNat % 0x40) count rest
    else (none, b :: rest)

theorem length_readFollowers_le (low high : UInt8) (bits count : Nat) (rest : Bytes) :
    (readFollowers low high bits count rest).2.length ≤ rest.length := by
  induction count generalizing low high bits rest with
  | zero => simp [readFollowers]
  | succ count ih =>
    cases rest with
    | nil => simp [readFollowers]
    | cons b rest =>
      simp only [readFollowers]
      split
      · exact Nat.le_succ_of_le (ih ..)
      · simp

/-- Reads one character, or `none` for an ill-formed part, and what is left. -/
def readChar (lead : UInt8) (rest : Bytes) : Option Char × Bytes :=
  match followers lead with
  | none => (none, rest)
  | some (count, low, high) =>
    let (bits, left) := readFollowers low high (leadBits lead count) count rest
    (bits.map Char.ofNat, left)

theorem length_readChar_le (lead : UInt8) (rest : Bytes) :
    (readChar lead rest).2.length ≤ rest.length := by
  unfold readChar
  split
  · simp
  · exact length_readFollowers_le ..

/-- The characters of a sequence of bytes, `none` for each maximal ill-formed part. -/
def readParts : Bytes → List (Option Char)
  | [] => []
  | lead :: rest => (readChar lead rest).1 :: readParts (readChar lead rest).2
termination_by bytes => bytes.length
decreasing_by
  have := length_readChar_le lead rest
  simp only [List.length_cons]; omega

/-- The text that the bytes are written as, with U+FFFD for each ill-formed part. -/
def readUtf8Lossy (bytes : Bytes) : List Char :=
  (readParts bytes).map fun part => part.getD replacement

/-- The text that the bytes are written as, if they are well formed. -/
def readUtf8? (bytes : Bytes) : Option (List Char) := (readParts bytes).mapM id

end Gangway.Text
