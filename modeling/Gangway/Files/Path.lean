import Gangway.Text.Cut

/-!
# Paths in the file system

A path is its segments between slashes. Empty segments and dots name nothing, except a dot in front
of a relative path, so they are passed over when a path is taken apart into its parent and its last
name.
-/

namespace Gangway.Path

open Gangway.Text (pieces join)

/-- The segments of a path. An absolute path begins with an empty one. -/
def segments (path : String) : List (List Char) := pieces '/' path.toList

/-- Whether the path begins at the root. -/
def isAbsolute (path : String) : Bool := path.toList.head? = some '/'

/-- Whether the segment at an index names something: a name, two dots, or a leading dot. -/
def names (index : Nat) (segment : List Char) : Bool :=
  !segment.isEmpty && (segment ≠ ['.'] || index = 0)

/-- The segments up to the last one that names something. -/
def dropUnnamed : List (List Char) → List (List Char)
  | [] => []
  | segment :: rest =>
    match dropUnnamedFrom 1 rest with
    | [] => if names 0 segment then [segment] else []
    | more => segment :: more
where
  dropUnnamedFrom (index : Nat) : List (List Char) → List (List Char)
    | [] => []
    | segment :: rest =>
      match dropUnnamedFrom (index + 1) rest with
      | [] => if names index segment then [segment] else []
      | more => segment :: more

/-- The last name of a path, unless it ends in dots or has none. -/
def fileName? (path : String) : Option String :=
  match (dropUnnamed (segments path)).getLast? with
  | some last => if last = ['.'] || last = ['.', '.'] then none else some (String.ofList last)
  | none => none

/-- The path without its last name. The root and the empty path have no parent. -/
def parent? (path : String) : Option String :=
  match dropUnnamed (segments path) with
  | [] => none
  | named =>
    let front := dropUnnamed named.dropLast
    if front.isEmpty && isAbsolute path then some "/"
    else some (String.ofList (join ['/'] front))

/-- A path seen from a directory: an absolute path stays as it is. -/
def under (directory path : String) : String :=
  if isAbsolute path || directory.isEmpty then path
  else if directory.toList.getLast? = some '/' then directory ++ path
  else directory ++ "/" ++ path

/-- The directory in which a path's file is looked up: its parent, or the current one. -/
def directoryOf (path : String) : String :=
  match parent? path with
  | some directory => if directory.isEmpty then "." else directory
  | none => "."

/-- The name that is looked up in that directory: the last name, or the whole path without one. -/
def nameOf (path : String) : String := (fileName? path).getD path

end Gangway.Path
