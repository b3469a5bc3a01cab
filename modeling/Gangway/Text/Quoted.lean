import Gangway.Encoding.Hex
import Gangway.Text.Printable

/-!
# Quoted text and records for diagnostics

A text is shown between double quotes with its quotes, backslashes and unprintable characters
escaped. A record is shown as its name and its fields; a secret is shown only as present or absent.
-/

namespace Gangway.Text

/-- The digits of a number in the base sixteen, without leading zeros. -/
def hexDigits (n : Nat) : List Char := Nat.toDigits 16 n

/-- A character as it stands between quotes. -/
def quoteChar (c : Char) : List Char :=
  if c = '"' then ['\\', '"']
  else if c = '\\' then ['\\', '\\']
  else if c = '\n' then ['\\', 'n']
  else if c = '\r' then ['\\', 'r']
  else if c = '\t' then ['\\', 't']
  else if c.toNat = 0 then ['\\', '0']
  else if prints c then [c]
  else ['\\', 'u', '\x7b'] ++ hexDigits c.toNat ++ ['\x7d']

/-- A text between quotes. -/
def quoted (text : String) : String :=
  String.ofList ('"' :: text.toList.flatMap quoteChar ++ ['"'])

/-- An optional value as `Some` of its text, or `None`. -/
def optional : Option String → String
  | some text => "Some(" ++ text ++ ")"
  | none => "None"

/-- How a secret is shown: whether there is one. -/
def redacted (present : Bool) : String :=
  optional (if present then some (quoted "<redacted>") else none)

/-- A list of texts between brackets. -/
def bracketed (texts : List String) : String := "[" ++ ", ".intercalate texts ++ "]"

/-- A record's name and fields; an open record has fields that are not shown. -/
def record (name : String) (fields : List (String × String)) (whole : Bool) : String :=
  let shown := fields.map fun (field, text) => field ++ ": " ++ text
  let rest := if whole then [] else [".."]
  name ++ " \x7b " ++ ", ".intercalate (shown ++ rest) ++ " \x7d"

end Gangway.Text
