import Gangway.Encoding.Hex

/-!
# Values written as JSON

A value is passed over or, where it is a string, read. A text that ends within a value is told apart
from one that breaks the rules.
-/

namespace Gangway.Json

/-- Why a text is not read. -/
inductive Fault where
  /-- The text ends too early. -/
  | ended
  /-- The text breaks the rules, or is not what is asked for. -/
  | malformed
  deriving DecidableEq, Repr

/-- What follows the part that is read. -/
abbrev Rest := Except Fault (List Char)

/-- The text without leading blanks. -/
def dropBlanks (text : List Char) : List Char := text.dropWhile [' ', '\n', '\t', '\r'].contains

/-- What follows a word. -/
def word : List Char → List Char → Rest
  | [], text => .ok text
  | _ :: _, [] => .error .ended
  | w :: more, c :: text => if w = c then word more text else .error .malformed

/-- What follows a run of digits, of which there is at least one. `short` is the fault of a text
that ends before the first. -/
def digits (short : Fault) : List Char → Rest
  | [] => .error short
  | c :: text => if c.isDigit then .ok (text.dropWhile Char.isDigit) else .error .malformed

/-- What follows the exponent of a number, if there is one. -/
def exponent (short : Fault) : List Char → Rest
  | 'e' :: '+' :: text | 'e' :: '-' :: text | 'E' :: '+' :: text | 'E' :: '-' :: text =>
    digits short text
  | 'e' :: text | 'E' :: text => digits short text
  | text => .ok text

/-- What follows a number. -/
def number (short : Fault) (text : List Char) : Rest := do
  let text := if text.head? = some '-' then text.tail else text
  let text ←
    match text with
    | '0' :: rest => if rest.head?.any Char.isDigit then .error .malformed else .ok rest
    | text => digits short text
  match text with
  | '.' :: fraction => exponent short (← digits short fraction)
  | text => exponent short text

/-- The number of four digits in the base sixteen, and what follows. -/
def fourDigits (text : List Char) : Except Fault (Nat × List Char) :=
  let four := text.take 4
  if four.length = 4 ∧ four.all fun c => (Hex.digit? c).isSome then
    .ok (four.foldl (fun n c => n * 16 + (Hex.digit? c).getD 0) 0, text.drop 4)
  else if (String.ofList text).utf8ByteSize < 4 then .error .ended
  else .error .malformed

/-- The character that a number escapes, and what follows. A surrogate needs its partner, unless the
string is only passed over. -/
def escapedNumber (strict : Bool) (text : List Char) : Except Fault (Char × List Char) := do
  let (n, rest) ← fourDigits text
  if !strict ∨ n < 0xD800 ∨ 0xDFFF < n then return (Char.ofNat n, rest)
  else if 0xDC00 ≤ n then throw .malformed
  else
    let (low, rest) ← fourDigits (← word ['\\', 'u'] rest)
    if 0xDC00 ≤ low ∧ low ≤ 0xDFFF then
      return (Char.ofNat (0x10000 + (n - 0xD800) * 0x400 + (low - 0xDC00)), rest)
    else throw .malformed

/-- The character after a backslash, and what follows. -/
def escaped (strict : Bool) : List Char → Except Fault (Char × List Char)
  | [] => .error .ended
  | '"' :: rest => .ok ('"', rest)
  | '\\' :: rest => .ok ('\\', rest)
  | '/' :: rest => .ok ('/', rest)
  | 'b' :: rest => .ok ('\x08', rest)
  | 'f' :: rest => .ok ('\x0c', rest)
  | 'n' :: rest => .ok ('\n', rest)
  | 'r' :: rest => .ok ('\r', rest)
  | 't' :: rest => .ok ('\t', rest)
  | 'u' :: rest => escapedNumber strict rest
  | _ :: _ => .error .malformed

/-- The text of a string after its opening quote, and what follows the string. The number bounds the
characters. -/
def stringUpTo (strict : Bool) : Nat → List Char → Except Fault (List Char × List Char)
  | 0, _ | _, [] => .error .ended
  | _ + 1, '"' :: rest => .ok ([], rest)
  | count + 1, '\\' :: rest => do
    let (c, rest) ← escaped strict rest
    let (text, rest) ← stringUpTo strict count rest
    return (c :: text, rest)
  | count + 1, c :: rest =>
    if c.toNat < 0x20 then .error .malformed
    else do
      let (text, rest) ← stringUpTo strict count rest
      return (c :: text, rest)

/-- The text of a string after its opening quote, and what follows the string. -/
def string (strict : Bool) (text : List Char) : Except Fault (List Char × List Char) :=
  stringUpTo strict (text.length + 1) text

/-- What is open around a value. -/
inductive Frame where
  | array
  | object
  deriving DecidableEq, Repr

mutual

/-- Passes over a value and all that is open around it. The number bounds the steps. -/
def passValue : Nat → List Frame → List Char → Rest
  | 0, _, _ => .error .malformed
  | steps + 1, frames, text =>
    match dropBlanks text with
    | [] => .error .ended
    | '[' :: rest =>
      match dropBlanks rest with
      | ']' :: rest => passRest steps frames rest
      | rest => passValue steps (.array :: frames) rest
    | '\x7b' :: rest =>
      match dropBlanks rest with
      | '\x7d' :: rest => passRest steps frames rest
      | rest => passMember steps (.object :: frames) rest
    | '"' :: rest => do passRest steps frames (← string false rest).2
    | 'n' :: rest => do passRest steps frames (← word ['u', 'l', 'l'] rest)
    | 't' :: rest => do passRest steps frames (← word ['r', 'u', 'e'] rest)
    | 'f' :: rest => do passRest steps frames (← word ['a', 'l', 's', 'e'] rest)
    | c :: rest =>
      if c = '-' || c.isDigit then do passRest steps frames (← number .malformed (c :: rest))
      else .error .malformed

/-- Passes over a member of an object and all that is open around it. -/
def passMember : Nat → List Frame → List Char → Rest
  | 0, _, _ => .error .malformed
  | steps + 1, frames, text =>
    match dropBlanks text with
    | [] => .error .ended
    | '"' :: rest => do
      match dropBlanks (← string false rest).2 with
      | [] => .error .ended
      | ':' :: rest => passValue steps frames rest
      | _ => .error .malformed
    | _ => .error .malformed

/-- Passes over what follows a value in all that is open around it. -/
def passRest : Nat → List Frame → List Char → Rest
  | _, [], text => .ok text
  | 0, _, _ => .error .malformed
  | steps + 1, frame :: frames, text =>
    match dropBlanks text, frame with
    | [], _ => .error .ended
    | ',' :: rest, .array => passValue steps (.array :: frames) rest
    | ',' :: rest, .object => passMember steps (.object :: frames) rest
    | ']' :: rest, .array => passRest steps frames rest
    | '\x7d' :: rest, .object => passRest steps frames rest
    | _, _ => .error .malformed

end

/-- What follows a value. -/
def pass (text : List Char) : Rest := passValue (2 * text.length + 2) [] text

/-- The text of a value that has to be a string, and what follows it. A value of another kind is a
fault, but where the text ends within it, that is the fault. -/
def stringValue (text : List Char) : Except Fault (List Char × List Char) :=
  match dropBlanks text with
  | [] => .error .ended
  | '"' :: rest => string true rest
  | 'n' :: rest => do let _ ← word ['u', 'l', 'l'] rest; .error .malformed
  | 't' :: rest => do let _ ← word ['r', 'u', 'e'] rest; .error .malformed
  | 'f' :: rest => do let _ ← word ['a', 'l', 's', 'e'] rest; .error .malformed
  | c :: rest =>
    if c = '-' || c.isDigit then do let _ ← number .ended (c :: rest); .error .malformed
    else .error .malformed

/-- The value, if nothing but blanks follows it. -/
def atEnd (value : α) (text : List Char) : Except Fault α :=
  if (dropBlanks text).isEmpty then .ok value else .error .malformed

/-- The member of a name among the members of an object, of which the first begins here. The number
bounds the members. -/
def memberAmong (name : List Char) :
    Nat → Option (List Char) → List Char → Except Fault (List Char)
  | 0, _, _ => .error .malformed
  | members + 1, found, text => do
    match dropBlanks text with
    | [] => .error .ended
    | '"' :: rest =>
      let (key, rest) ← string true rest
      if key = name ∧ found.isSome then .error .malformed
      else
        match dropBlanks rest with
        | [] => .error .ended
        | ':' :: rest =>
          let (found, rest) ←
            if key = name then (stringValue rest).map fun (value, rest) => (some value, rest)
            else (pass rest).map fun rest => (found, rest)
          match dropBlanks rest, found with
          | [], _ => .error .ended
          | ',' :: rest, _ => memberAmong name members found rest
          | '\x7d' :: rest, some value => atEnd value rest
          | _, _ => .error .malformed
        | _ => .error .malformed
    | _ => .error .malformed

/-- The string that a text holds as an object's only member of a name, or as the one item of a
list. -/
def fieldOf (name text : List Char) : Except Fault (List Char) :=
  match dropBlanks text with
  | '\x7b' :: rest => memberAmong name (text.length + 1) none rest
  | '[' :: rest => do
    let (value, rest) ← stringValue rest
    match dropBlanks rest with
    | [] => .error .ended
    | ']' :: rest => atEnd value rest
    | _ => .error .malformed
  | rest => (stringValue rest).bind fun _ => .error .malformed

end Gangway.Json
