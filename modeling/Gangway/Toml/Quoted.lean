import Gangway.Encoding.Hex

/-!
# TOML strings

The four quoted forms. Each reader begins after the opening quotes and gives the characters with the
text that follows the closing ones. The first argument bounds the characters read; the length of the
text is enough.
-/

namespace Gangway.Toml

/-- Characters that stand for themselves in comments and in all strings: no control but the tab. -/
def isPlain (c : Char) : Bool := c = '\t' || (' ' ≤ c && c != '\x7F')

/-- The character of a number, unless it is a surrogate or out of range. -/
def charOf? (number : Nat) : Option Char :=
  if h : number.isValidChar then some ⟨number.toUInt32, by
    have bound : number < UInt32.size := by
      rcases h with h | h
      · exact Nat.lt_trans h (by decide)
      · exact Nat.lt_trans h.2 (by decide)
    simpa [UInt32.isValidChar, Nat.toUInt32, UInt32.toNat_ofNat_of_lt' bound] using h⟩
  else none

/-- The character of an escape with the given count of hexadecimal digits, and the rest. -/
def numbered (count : Nat) (text : List Char) : Option (Char × List Char) :=
  let digits := text.take count
  if digits.length = count then do
    let number ← Hex.number? digits
    let c ← charOf? number
    some (c, text.drop count)
  else none

/-- The character of an escape, which begins after the backslash, and the rest. -/
def escape : List Char → Option (Char × List Char)
  | 'b' :: rest => some ('\x08', rest)
  | 't' :: rest => some ('\t', rest)
  | 'n' :: rest => some ('\n', rest)
  | 'f' :: rest => some ('\x0C', rest)
  | 'r' :: rest => some ('\r', rest)
  | 'e' :: rest => some ('\x1B', rest)
  | '"' :: rest => some ('"', rest)
  | '\\' :: rest => some ('\\', rest)
  | 'x' :: rest => numbered 2 rest
  | 'u' :: rest => numbered 4 rest
  | 'U' :: rest => numbered 8 rest
  | _ => none

/-- A string on one line, with escapes. -/
def basic : Nat → List Char → Option (List Char × List Char)
  | 0, _ => none
  | _ + 1, '"' :: rest => some ([], rest)
  | bound + 1, '\\' :: rest => do
    let (c, rest) ← escape rest
    let (more, rest) ← basic bound rest
    some (c :: more, rest)
  | bound + 1, c :: rest =>
    if isPlain c then do
      let (more, rest) ← basic bound rest
      some (c :: more, rest)
    else none
  | _ + 1, [] => none

/-- A string on one line, without escapes. -/
def literal : List Char → Option (List Char × List Char)
  | [] => none
  | '\'' :: rest => some ([], rest)
  | c :: rest =>
    if isPlain c then (literal rest).map fun (more, rest) => (c :: more, rest) else none

/-- The text without one line end at its front. -/
def dropLineEnd : List Char → List Char
  | '\n' :: rest => rest
  | '\r' :: '\n' :: rest => rest
  | rest => rest

/-- The text after a run of blanks and line ends. -/
def dropBlankLines : List Char → List Char
  | ' ' :: rest => dropBlankLines rest
  | '\t' :: rest => dropBlankLines rest
  | '\n' :: rest => dropBlankLines rest
  | '\r' :: '\n' :: rest => dropBlankLines rest
  | rest => rest

/-- The text after a backslash at the end of a line, with the blank run that it joins. -/
def dropContinuation (text : List Char) : Option (List Char) :=
  match text.dropWhile fun c => c = ' ' || c = '\t' with
  | '\n' :: rest => some (dropBlankLines rest)
  | '\r' :: '\n' :: rest => some (dropBlankLines rest)
  | _ => none

/-- A run of quotes inside a string of several lines: the quotes that belong to it, whether it ends
there, and the rest. Up to two quotes may stand before the closing three. -/
def quoteRun (quote : Char) (text : List Char) : List Char × Bool × List Char :=
  let count := (text.takeWhile (· = quote)).length
  if count < 3 then (List.replicate count quote, false, text.drop count)
  else
    let taken := min count 5
    (List.replicate (taken - 3) quote, true, text.drop taken)

/-- A string over several lines, with escapes or without. -/
def multiline (quote : Char) (escapes : Bool) :
    Nat → List Char → Option (List Char × List Char)
  | 0, _ => none
  | _ + 1, [] => none
  | bound + 1, c :: rest =>
    if c = quote then
      let (quotes, ended, rest) := quoteRun quote (c :: rest)
      if ended then some (quotes, rest)
      else do
        let (more, rest) ← multiline quote escapes bound rest
        some (quotes ++ more, rest)
    else if escapes && c = '\\' then
      match dropContinuation rest with
      | some rest => multiline quote escapes bound rest
      | none => do
        let (c, rest) ← escape rest
        let (more, rest) ← multiline quote escapes bound rest
        some (c :: more, rest)
    else if isPlain c || c = '\n' || (c = '\r' && rest.head? = some '\n') then do
      let (more, rest) ← multiline quote escapes bound rest
      some (c :: more, rest)
    else none

/-- A string of any form, which begins with its opening quotes. -/
def quoted (text : List Char) : Option (List Char × List Char) :=
  match text with
  | '"' :: '"' :: '"' :: rest => multiline '"' true text.length (dropLineEnd rest)
  | '\'' :: '\'' :: '\'' :: rest => multiline '\'' false text.length (dropLineEnd rest)
  | '"' :: rest => basic text.length rest
  | '\'' :: rest => literal rest
  | _ => none

/-- A string on one line, as keys are quoted. -/
def quotedKey (text : List Char) : Option (List Char × List Char) :=
  match text with
  | '"' :: rest => basic text.length rest
  | '\'' :: rest => literal rest
  | _ => none

end Gangway.Toml
