import Gangway.Text.Cut
import Gangway.Text.Utf8
import Gangway.Uri.Percent

/-!
# Queries as form fields

A query is a list of pairs between `&`. In a pair the first `=` parts the key from the value, a `+`
is a space, encoded bytes are decoded, and bytes that are no UTF-8 become U+FFFD. Empty pairs do not
count.
-/

namespace Gangway.Uri

open Gangway.Text (pieces splitOnce utf8Chars readUtf8Lossy)

/-- The text of one side of a pair. -/
def formDecode (text : List Char) : List Char :=
  let spaced := text.map fun c => if c = '+' then ' ' else c
  readUtf8Lossy (percentDecode (utf8Chars spaced))

/-- A pair of the query. -/
def formPair (text : List Char) : List Char × List Char :=
  match splitOnce ['='] text with
  | some (key, value) => (formDecode key, formDecode value)
  | none => (formDecode text, [])

/-- The pairs of a query, in order. -/
def formPairs (query : List Char) : List (List Char × List Char) :=
  ((pieces '&' query).filter fun piece => !piece.isEmpty).map formPair

end Gangway.Uri
