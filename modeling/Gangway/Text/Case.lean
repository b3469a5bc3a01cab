/-!
# ASCII letter case

Host names are compared without regard to the case of ASCII letters; other letters keep theirs.
-/

namespace Gangway.Text

/-- The character with an ASCII capital replaced by its small letter. -/
def lowerChar (c : Char) : Char :=
  if 'A' ≤ c ∧ c ≤ 'Z' then Char.ofNat (c.toNat + 32) else c

/-- The text with its ASCII capitals replaced by small letters. -/
def lower (text : List Char) : List Char := text.map lowerChar

/-- The string with its ASCII capitals replaced by small letters. -/
def lowerString (s : String) : String := String.ofList (lower s.toList)

end Gangway.Text
