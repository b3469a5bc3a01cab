import Gangway.Text.Cut

/-!
# Blank characters

A character is blank when it has the Unicode property `White_Space`. Trimming removes blanks at both
ends and `words` are the non-empty runs between blanks.
-/

namespace Gangway.Text

/-- The Unicode property `White_Space`. -/
def isBlank (c : Char) : Bool :=
  let n := c.toNat
  (0x09 ≤ n && n ≤ 0x0D) || n = 0x20 || n = 0x85 || n = 0xA0 || n = 0x1680 ||
    (0x2000 ≤ n && n ≤ 0x200A) || n = 0x2028 || n = 0x2029 || n = 0x202F || n = 0x205F ||
    n = 0x3000

/-- The text without its leading blanks. -/
def trimStart (text : List Char) : List Char := text.dropWhile isBlank

/-- The text without its trailing blanks. -/
def trimEnd (text : List Char) : List Char := (text.reverse.dropWhile isBlank).reverse

/-- The text without the blanks at its ends. -/
def trim (text : List Char) : List Char := trimEnd (trimStart text)

/-- The non-empty runs between blanks, in order. -/
def words (text : List Char) : List (List Char) :=
  (piecesBy isBlank text).filter fun run => !run.isEmpty

end Gangway.Text
