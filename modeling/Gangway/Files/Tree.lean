import Gangway.Engine.Listener
import Gangway.Files.Basic
import Gangway.Text.Utf8

/-!
# File trees

A file tree maps places, given by the names on the way from the root, to what is there. Paths are
followed name by name through links, at most forty of them; within an opened directory neither a
name nor a link may lead above it. `Tree.files` is the file system that a tree shows.
-/

namespace Gangway

open Text (Bytes utf8 readUtf8?)

/-- What is at a place of a tree. -/
inductive Entry where
  | file (content : Bytes)
  | directory
  | link (target : String)
  | socket (listener : Listener)
  deriving DecidableEq, Repr

/-- A place: the names on the way from the root, the last one first. -/
abbrev Place := List String

/-- A file tree with a current directory. -/
structure Tree where
  entries : List (Place × Entry)
  /-- The directory that relative paths begin at. -/
  current : Place

namespace Tree

/-- What is at a place; the root is a directory. -/
def at? (tree : Tree) (place : Place) : Option Entry :=
  if place.isEmpty then some .directory else tree.entries.lookup place

/-- How many links are followed on the way of one path. -/
def linkLimit : Nat := 40

/-- Follows names from a directory. `floor` is the number of names that may not be left upwards. -/
def follow (tree : Tree) (floor : Option Nat) (links : Nat) (place : Place)
    (todo : List (List Char)) : Except OsError Place :=
  match todo with
  | [] => .ok place
  | segment :: rest =>
    if segment.isEmpty || segment = ['.'] then follow tree floor links place rest
    else if segment = ['.', '.'] then
      if floor.any (place.length ≤ ·) then .error .outside
      else follow tree floor links place.tail rest
    else
      let name := String.ofList segment
      if name.utf8ByteSize > 255 then .error .nameTooLong
      else
        match tree.at? (name :: place) with
        | none => .error .notFound
        | some .directory => follow tree floor links (name :: place) rest
        | some (.link target) =>
          match links with
          | 0 => .error .linkLoop
          | links + 1 =>
            if Path.isAbsolute target then
              if floor.isSome then .error .outside
              else follow tree floor links [] (Path.segments target ++ rest)
            else follow tree floor links place (Path.segments target ++ rest)
        | some _ => if rest.isEmpty then .ok (name :: place) else .error .notDirectory
termination_by (links, todo.length)

/-- Whether the system takes the text as a path at all. -/
def checkPath (path : String) : Except OsError Unit :=
  if path.toList.any (·.toNat = 0) then .error .invalidArgument
  else if path.isEmpty then .error .notFound
  else if path.utf8ByteSize ≥ 4096 then .error .nameTooLong
  else .ok ()

/-- The place that a path leads to. -/
def locate (tree : Tree) (path : String) : Except OsError Place := do
  checkPath path
  follow tree none linkLimit (if Path.isAbsolute path then [] else tree.current)
    (Path.segments path)

/-- The place that a name leads to without leaving a directory. -/
def locateWithin (tree : Tree) (directory : Place) (name : String) : Except OsError Place := do
  checkPath name
  if Path.isAbsolute name then throw .outside
  follow tree (some directory.length) linkLimit directory (Path.segments name)

/-- The text of the file at a place. -/
def readAt (tree : Tree) (place : Place) : Except OsError String :=
  match tree.at? place with
  | some (.file content) =>
    match readUtf8? content with
    | some text => .ok (String.ofList text)
    | none => .error .notText
  | some (.socket _) => .error .noDevice
  | some _ => .error .isDirectory
  | none => .error .notFound

/-- The place of a directory. -/
def locateDirectory (tree : Tree) (path : String) : Except OsError Place := do
  let place ← tree.locate path
  if tree.at? place = some .directory then return place else throw .notDirectory

/-- The file system that the tree shows. -/
def files (tree : Tree) : Files where
  present path := (tree.locate path).toOption.isSome
  openDirectory path := (tree.locateDirectory path).map fun _ => ()
  readWithin directory name := do
    let directory ← tree.locateDirectory directory
    readAt tree (← tree.locateWithin directory name)

/-- The tree without a place and what is below it. -/
def remove (tree : Tree) (place : Place) : Tree :=
  { tree with entries := tree.entries.filter fun entry => !place.isSuffixOf entry.1 }

/-- The tree with directories made on the way to a place, which itself is not made. -/
def makeParents (tree : Tree) : Place → Tree
  | [] => tree
  | _ :: parent =>
    match tree.at? parent with
    | some _ => tree
    | none =>
      let tree := makeParents tree parent
      { tree with entries := (parent, .directory) :: tree.entries }

/-- The place that a relative path is written to, which need not exist. Links on the way to its
directory are followed. -/
def target (tree : Tree) (path : String) : Place :=
  let directory :=
    match tree.locate (Path.directoryOf path) with
    | .ok place => place
    | .error _ =>
      let names := (Path.segments (Path.directoryOf path)).filter fun s => !s.isEmpty && s ≠ ['.']
      (names.map String.ofList).reverse ++ (if Path.isAbsolute path then [] else tree.current)
  Path.nameOf path :: directory

/-- The tree with an entry written in place of whatever was there. -/
def write (tree : Tree) (path : String) (entry : Entry) : Tree :=
  let place := tree.target path
  let tree := (tree.remove place).makeParents place
  { tree with entries := (place, entry) :: tree.entries }

/-- The tree without what a path names; a link is removed and not what it leads to. -/
def erase (tree : Tree) (path : String) : Tree := tree.remove (tree.target path)

/-- The listener behind the socket that a path leads to. -/
def listener? (tree : Tree) (path : String) : Option Listener :=
  match tree.locate path with
  | .ok place =>
    match tree.at? place with
    | some (.socket listener) => some listener
    | _ => none
  | .error _ => none

/-- A tree of nothing but a current directory. -/
def empty (current : Place) : Tree :=
  let tree : Tree := { entries := [], current }
  if current.isEmpty then tree
  else
    let tree := tree.makeParents current
    { tree with entries := (current, .directory) :: tree.entries }

end Tree

end Gangway
