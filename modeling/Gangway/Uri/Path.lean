import Gangway.Text.Cut
import Gangway.Uri.Percent

/-!
# Paths

A path is its segments, each after a `/`. A segment of one dot is dropped and one of two dots takes
the segment before it away, whether the dots are written or encoded; at the end of a path both leave
an empty segment. A drive letter is not taken away.
-/

namespace Gangway.Uri

/-- Whether the segment is one dot. -/
def isDot (segment : List Char) : Bool :=
  segment = ['.'] || segment = ['%', '2', 'e'] || segment = ['%', '2', 'E']

/-- Whether the segment is two dots. -/
def isDoubleDot : List Char → Bool
  | '.' :: rest => isDot rest
  | '%' :: '2' :: 'e' :: rest => isDot rest
  | '%' :: '2' :: 'E' :: rest => isDot rest
  | _ => false

/-- Whether the segment begins with a drive letter that is not part of a longer word. -/
def isDrive : List Char → Bool
  | [c, mark] => c.isAlpha && (mark = ':' || mark = '|')
  | c :: mark :: next :: _ => c.isAlpha && (mark = ':' || mark = '|') && next = '\\'
  | _ => false

/-- The segments kept so far, the last first, without the last one unless it is a drive letter. -/
def shorten : List (List Char) → List (List Char)
  | [] => []
  | segment :: rest => if isDrive segment then segment :: rest else rest

/-- Takes the dot segments out; `kept` holds the segments kept so far, the last first. -/
def dropDots (kept : List (List Char)) : List (List Char) → List (List Char)
  | [] => kept.reverse
  | [last] =>
    if isDoubleDot last then ([] :: shorten kept).reverse
    else if isDot last then ([] :: kept).reverse
    else (last :: kept).reverse
  | segment :: rest =>
    if isDoubleDot segment then dropDots (shorten kept) rest
    else if isDot segment then dropDots kept rest
    else dropDots (segment :: kept) rest

/-- A path with its dot segments taken out and the rest percent-encoded. The text begins after the
first `/`. -/
def normalPath (ends : Char → Bool) (text : List Char) : List Char :=
  let segments := (Text.piecesBy ends text).map (percentEncode pathKeeps)
  (dropDots [] segments).flatMap fun segment => '/' :: segment

end Gangway.Uri
