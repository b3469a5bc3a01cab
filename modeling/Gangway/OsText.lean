import Gangway.Files.Path
import Gangway.Text.Utf8

/-!
# Texts of the system

The system holds the values of variables and the paths of files as bytes. Those that are not UTF-8
are no text of this library, but a path through such a directory may still lead to something.
-/

namespace Gangway

open Text (Bytes utf8 readUtf8? piecesBy)

/-- A text as the system holds it. -/
inductive OsText where
  | text (content : String)
  /-- Bytes that no text is written as. -/
  | bytes (content : Bytes)
  deriving DecidableEq, Repr

namespace OsText

/-- What the bytes are to the library. -/
def ofBytes (content : Bytes) : OsText :=
  match readUtf8? content with
  | some letters => .text (String.ofList letters)
  | none => .bytes content

/-- The text, if it is one. -/
def text? : OsText → Option String
  | .text content => some content
  | .bytes _ => none

/-- Whether nothing is held. -/
def isEmpty : OsText → Bool
  | .text content => content.isEmpty
  | .bytes content => content.isEmpty

/-- Whether the path begins at the root. -/
def isAbsolute : OsText → Bool
  | .text path => Path.isAbsolute path
  | .bytes path => path.head? = some 0x2F

/-- A path seen from a directory. -/
def under : OsText → String → OsText
  | .text directory, path => .text (Path.under directory path)
  | .bytes directory, path =>
    if Path.isAbsolute path || directory.isEmpty then .text path
    else if directory.getLast? = some 0x2F then .bytes (directory ++ utf8 path)
    else .bytes (directory ++ 0x2F :: utf8 path)

end OsText

end Gangway
