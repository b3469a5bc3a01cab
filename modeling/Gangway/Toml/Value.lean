/-!
# TOML values

The tree that a TOML document denotes. Tables hold each key once, in the order of their first
mention. Numbers keep what their readers need: integers their value, floats their literal.
-/

namespace Gangway.Toml

/-- A TOML value. -/
inductive Value where
  | text (content : String)
  | integer (number : Int)
  | float (literal : String)
  | boolean (truth : Bool)
  | datetime (literal : String)
  | array (items : List Value)
  | table (entries : List (String × Value))
  deriving Inhabited

/-- The entries of a table, each key with its value. -/
abbrev Entries := List (String × Value)

/-- The value of a key, if the entries hold it. -/
def get? (entries : Entries) (key : String) : Option Value := entries.lookup key

/-- Whether a float literal denotes a number, and not an infinity or no number at all. -/
def isFinite (literal : String) : Bool := !literal.toList.any fun c => c = 'n'

end Gangway.Toml
