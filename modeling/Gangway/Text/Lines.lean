/-!
# Lines

A line ends at a line feed, which is not part of it, nor is one carriage return right before it.
What follows the last line feed is a line too, unless it is empty. A carriage return elsewhere is
text.
-/

namespace Gangway.Text

/-- The line without a carriage return at its end. -/
def dropReturn (line : List Char) : List Char :=
  match line.reverse with
  | '\r' :: rest => rest.reverse
  | _ => line

/-- The lines of a text whose part already read is `current`, reversed. -/
def linesAfter (current : List Char) : List Char → List (List Char)
  | [] => if current.isEmpty then [] else [current.reverse]
  | c :: rest =>
    if c = '\n' then dropReturn current.reverse :: linesAfter [] rest
    else linesAfter (c :: current) rest

/-- The lines of a text, without their ends. -/
def lines (text : List Char) : List (List Char) := linesAfter [] text

end Gangway.Text
