import Gangway.Text.Utf8

/-!
# Wildcard patterns

In a pattern of bytes `*` stands for any run of bytes, `?` for one byte, and every other byte for
itself.
-/

namespace Gangway.Text

/-- The byte `*`. -/
def star : UInt8 := 42

/-- The byte `?`. -/
def anyByte : UInt8 := 63

/-- The rests of a sequence of bytes, from the whole to nothing. -/
def rests : Bytes → List Bytes
  | [] => [[]]
  | b :: bytes => (b :: bytes) :: rests bytes

/-- Whether a name matches a pattern. -/
def globMatches : Bytes → Bytes → Bool
  | [], name => name.isEmpty
  | p :: pattern, name =>
    if p = star then (rests name).any (globMatches pattern)
    else
      match name with
      | [] => false
      | b :: name => (p = anyByte || p = b) && globMatches pattern name

end Gangway.Text
