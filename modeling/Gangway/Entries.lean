/-!
# Entries by key

A table is a list of entries, each of which holds something under a key. `put` stores under a key
and keeps the order of the entries.
-/

namespace Gangway

/-- The entries with what a key holds replaced, or added at the end. -/
def put {α : Type} (key : String) (content : α) : List (String × α) → List (String × α)
  | [] => [(key, content)]
  | (k, c) :: rest => if k = key then (k, content) :: rest else (k, c) :: put key content rest

end Gangway
