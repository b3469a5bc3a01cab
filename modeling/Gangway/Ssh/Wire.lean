import Gangway.Digest.Words

/-!
# The SSH wire format

Strings and numbers are written after their length in four bytes. A `Reader` takes what it reads off
the front of the bytes and gives the rest.
-/

namespace Gangway.Ssh.Wire

open Gangway.Text (Bytes)
open Gangway.Digest (bytesBE natOfBytes)

/-- Reads a value off the front of the bytes. -/
abbrev Reader (α : Type) := StateT Bytes Option α

/-- Longer strings than this are refused. -/
def lengthLimit : Nat := 0xFFFFF

/-- The next `count` bytes. -/
def take (count : Nat) : Reader Bytes := fun bytes =>
  if count ≤ bytes.length then some (bytes.take count, bytes.drop count) else none

/-- A number of four bytes. -/
def word : Reader Nat := do return natOfBytes (← take 4)

/-- The length of a string that follows. -/
def length : Reader Nat := do
  let n ← word
  if n ≤ lengthLimit then return n else failure

/-- A string of bytes. -/
def string : Reader Bytes := do take (← length)

/-- What `inner` reads within a string. The string may be announced longer than what is read of it,
and then the bytes that are not read follow it. -/
def within (inner : Reader α) : Reader α := do
  let announced ← length
  let before ← get
  let value ← inner
  let after ← get
  if before.length - after.length ≤ announced then return value else failure

/-- A string of UTF-8 text. -/
def text : Reader String := do
  let bytes ← string
  match Text.readUtf8? bytes with
  | some chars => return String.ofList chars
  | none => failure

/-- A number of any size in its shortest form. -/
def mpint : Reader Bytes := do
  let bytes ← string
  match bytes with
  | [0] => failure
  | 0 :: next :: _ => if next < 0x80 then failure else return bytes
  | _ => return bytes

/-- The bytes that are left. -/
def left : Reader Nat := do return (← get).length

/-- A string as it is written. -/
def write (bytes : Bytes) : Bytes := bytesBE 4 bytes.length ++ bytes

end Gangway.Ssh.Wire
