import Gangway.Digest.Words

/-!
# Elements with tag and length

Structured data written as elements, each a tag, a length in its shortest form and that many bytes.
The content of a structured element is a sequence of elements again.
-/

namespace Gangway.Der

open Gangway.Text (Bytes)
open Gangway.Digest (natOfBytes)

/-- A tag and what is written under it. -/
structure Element where
  tag : UInt8
  content : Bytes
  deriving DecidableEq, Repr

/-- The tags that private keys are written with. -/
inductive Tag where
  | integer
  | bitString
  | octetString
  | identifier
  | sequence
  deriving DecidableEq, Repr

/-- The byte of a tag. -/
def Tag.byte : Tag → UInt8
  | .integer => 0x02
  | .bitString => 0x03
  | .octetString => 0x04
  | .identifier => 0x06
  | .sequence => 0x30

/-- The length in front of a content, and the bytes from the content on. -/
def length? : Bytes → Option (Nat × Bytes)
  | [] => none
  | first :: rest =>
    if first < 0x80 then some (first.toNat, rest)
    else
      let count := first.toNat - 0x80
      let length := natOfBytes (rest.take count)
      if 1 ≤ count ∧ count ≤ 4 ∧ count ≤ rest.length ∧ 0x80 ≤ length ∧
          Nat.pow 256 (count - 1) ≤ length then
        some (length, rest.drop count)
      else none

theorem length?_shorter {bytes : Bytes} {n : Nat} {after : Bytes}
    (h : length? bytes = some (n, after)) : after.length < bytes.length := by
  cases bytes with
  | nil => simp [length?] at h
  | cons first rest =>
    simp only [length?] at h
    split at h
    · grind
    · split at h
      · simp only [Option.some.injEq, Prod.mk.injEq] at h
        rw [← h.2, List.length_drop, List.length_cons]
        omega
      · simp at h

/-- The elements that the bytes are a sequence of. Tags of more than one byte are refused. -/
def elements? (bytes : Bytes) : Option (List Element) :=
  match bytes with
  | [] => some []
  | tag :: rest =>
    if tag &&& 0x1F = 0x1F then none
    else
      match h : length? rest with
      | none => none
      | some (n, after) =>
        have := length?_shorter h
        if n ≤ after.length then (elements? (after.drop n)).map (⟨tag, after.take n⟩ :: ·)
        else none
termination_by bytes.length
decreasing_by
  simp only [List.length_drop, List.length_cons]
  omega

/-- The elements within the only element that the bytes are, a sequence. -/
def sequence? (bytes : Bytes) : Option (List Element) := do
  let [⟨tag, content⟩] ← elements? bytes | none
  if tag = Tag.sequence.byte then elements? content else none

/-- The first element and the elements after it, if the first has the given tag. -/
def next? (tag : Tag) : List Element → Option (Bytes × List Element)
  | ⟨found, content⟩ :: rest => if found = tag.byte then some (content, rest) else none
  | [] => none

/-- Whether the element is numbered by its context instead of tagged by its kind. -/
def Element.isNumbered (element : Element) : Bool := element.tag &&& 0xC0 = 0x80

/-- The number of a numbered element. -/
def Element.number (element : Element) : UInt8 := element.tag &&& 0x1F

/-- The numbered element with the given number, if there is one, and the elements after it. Elements
with smaller numbers are passed over. -/
def numbered? (number : UInt8) : List Element → Option Element × List Element
  | [] => (none, [])
  | element :: rest =>
    if !element.isNumbered || element.number > number then (none, element :: rest)
    else if element.number = number then (some element, rest)
    else numbered? number rest

/-- The one element within a numbered element, if it has the given tag. -/
def Element.inner? (element : Element) (tag : Tag) : Option Bytes := do
  if element.tag &&& 0x20 = 0 then none
  else
    let [⟨found, content⟩] ← elements? element.content | none
    if found = tag.byte then some content else none

/-- The bytes of a string of bits that fills them. -/
def wholeBytes? : Bytes → Option Bytes
  | 0 :: bytes => some bytes
  | _ => none

end Gangway.Der
