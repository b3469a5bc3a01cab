import Gangway.Toml.Build
import Gangway.Toml.Quoted
import Gangway.Toml.Scalar

/-!
# TOML documents

`readDocument` reads the text of a document into its table. Values nest at most eighty deep, and a
dotted key has at most eighty parts. The first argument of the recursive readers bounds their steps;
it is computed from the length of the text, which no document outruns.
-/

namespace Gangway.Toml

/-- How deep arrays and inline tables may nest, and how many parts a key may have. -/
def depthLimit : Nat := 80

/-- The text without its leading spaces and tabs. -/
def dropSpaces (text : List Char) : List Char := text.dropWhile fun c => c = ' ' || c = '\t'

/-- The text after blanks, line ends and comments; a comment holds no control characters. -/
def dropFiller (inComment : Bool) : List Char → Option (List Char)
  | [] => some []
  | '\n' :: rest => dropFiller false rest
  | '\r' :: '\n' :: rest => dropFiller false rest
  | c :: rest =>
    if inComment then if isPlain c then dropFiller true rest else none
    else if c = '#' then dropFiller true rest
    else if c = ' ' || c = '\t' then dropFiller false rest
    else some (c :: rest)

/-- Whether the character may stand in a key without quotes. -/
def isBareKeyChar (c : Char) : Bool := c.isAlphanum || c = '_' || c = '-'

/-- One part of a key. -/
def keyPart (text : List Char) : Option (String × List Char) :=
  match quotedKey text with
  | some (key, rest) => some (String.ofList key, rest)
  | none =>
    match text.span isBareKeyChar with
    | ([], _) => none
    | (key, rest) => some (String.ofList key, rest)

/-- A dotted key with at most the given number of parts. -/
def dottedKey : Nat → List Char → Option (List String × List Char)
  | 0, _ => none
  | parts + 1, text => do
    let (key, rest) ← keyPart (dropSpaces text)
    match dropSpaces rest with
    | '.' :: rest => do
      let (more, rest) ← dottedKey parts rest
      some (key :: more, rest)
    | rest => some ([key], rest)

/-- A key up to the sign of its assignment. -/
def assignedKey (text : List Char) : Option (List String × List Char) := do
  let (path, rest) ← dottedKey depthLimit text
  match rest with
  | '=' :: rest => some (path, dropSpaces rest)
  | _ => none

mutual

/-- A value with at most `depth` levels of nesting. -/
def value : Nat → Nat → List Char → Option (Value × List Char)
  | 0, _, _ => none
  | steps + 1, depth, text =>
    match text with
    | '[' :: rest =>
      match depth with
      | 0 => none
      | depth + 1 => do
        let (values, rest) ← items steps depth rest
        some (.array values, rest)
    | '\x7b' :: rest =>
      match depth with
      | 0 => none
      | depth + 1 => do
        let (assignments, rest) ← inlineEntries steps depth rest
        let entries ← tableOf assignments
        some (.table entries, rest)
    | _ =>
      match quoted text with
      | some (content, rest) => some (.text (String.ofList content), rest)
      | none =>
        let (literal, rest) := cutScalar text
        (scalar? literal).map fun value => (value, rest)

/-- The items of an array, from behind its bracket or a comma on. -/
def items : Nat → Nat → List Char → Option (List Value × List Char)
  | 0, _, _ => none
  | steps + 1, depth, text => do
    let text ← dropFiller false text
    match text with
    | ']' :: rest => some ([], rest)
    | _ => do
      let (item, rest) ← value steps depth text
      let rest ← dropFiller false rest
      match rest with
      | ',' :: rest => do
        let (more, rest) ← items steps depth rest
        some (item :: more, rest)
      | ']' :: rest => some ([item], rest)
      | _ => none

/-- The assignments of an inline table, from behind its brace or a comma on. -/
def inlineEntries : Nat → Nat → List Char → Option (List Assignment × List Char)
  | 0, _, _ => none
  | steps + 1, depth, text => do
    let text ← dropFiller false text
    match text with
    | '\x7d' :: rest => some ([], rest)
    | _ => do
      let (path, rest) ← assignedKey text
      let (assigned, rest) ← value steps depth rest
      let rest ← dropFiller false rest
      match rest with
      | ',' :: rest => do
        let (more, rest) ← inlineEntries steps depth rest
        some (⟨path, assigned⟩ :: more, rest)
      | '\x7d' :: rest => some ([⟨path, assigned⟩], rest)
      | _ => none

end

/-- The text after the end of a line, before which only blanks and a comment may stand. -/
def endOfLine (text : List Char) : Option (List Char) :=
  match dropSpaces text with
  | [] => some []
  | '\n' :: rest => some rest
  | '\r' :: '\n' :: rest => some rest
  | '#' :: rest =>
    match rest.dropWhile isPlain with
    | [] => some []
    | '\n' :: rest => some rest
    | '\r' :: '\n' :: rest => some rest
    | _ => none
  | _ => none

/-- A header's kind and path, from its first bracket to the end of its line. -/
def header (text : List Char) : Option (Heading × List String × List Char) :=
  match text with
  | '[' :: '[' :: rest => do
    let (path, rest) ← dottedKey depthLimit rest
    match rest with
    | ']' :: ']' :: rest => do
      let rest ← endOfLine rest
      some (.element, path, rest)
    | _ => none
  | '[' :: rest => do
    let (path, rest) ← dottedKey depthLimit rest
    match rest with
    | ']' :: rest => do
      let rest ← endOfLine rest
      some (.table, path, rest)
    | _ => none
  | _ => none

/-- The assignments up to the next header or the end, and the sections from there on. -/
def statements : Nat → List Char → Option (List Assignment × List Section)
  | 0, _ => none
  | steps + 1, text => do
    let text ← dropFiller false text
    match text with
    | [] => some ([], [])
    | '[' :: _ => do
      let (heading, path, rest) ← header text
      let (assignments, sections) ← statements steps rest
      some ([], ⟨heading, path, assignments⟩ :: sections)
    | _ => do
      let (path, rest) ← assignedKey text
      let (assigned, rest) ← value (2 * text.length + 2) depthLimit rest
      let rest ← endOfLine rest
      let (assignments, sections) ← statements steps rest
      some (⟨path, assigned⟩ :: assignments, sections)

/-- The table of a document, if the text is one. A byte order mark may stand in front. -/
def readDocument (text : String) : Option Entries := do
  let body :=
    match text.toList with
    | '\uFEFF' :: rest => rest
    | body => body
  let (front, sections) ← statements (body.length + 1) body
  documentOf front sections

end Gangway.Toml
