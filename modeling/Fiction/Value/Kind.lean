/-!
# Fiction.Value.Kind

The kinds of values, as authors read of them in messages.
-/

namespace Fiction

/-- The kind of a value. -/
inductive Kind where
  | null
  | boolean
  | integer
  | real
  | text
  | list
  | mapping
deriving Repr, DecidableEq, Inhabited

/-- The name of a kind in messages. -/
def Kind.name : Kind → String
  | .null => "null"
  | .boolean => "boolean"
  | .integer => "integer"
  | .real => "real"
  | .text => "text"
  | .list => "list"
  | .mapping => "mapping"

end Fiction
