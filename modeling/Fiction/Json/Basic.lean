/-!
# Fiction.Json.Basic

Data as a tree, the form in which stories and saved playthroughs are exchanged.

An object keeps all its members in the order in which they were written, repeated keys included:
what a repeated key means is decided by whoever reads the tree.
-/

namespace Fiction

/-- A data tree. -/
inductive Json where
  | null
  | bool (b : Bool)
  /-- A number written without fraction and exponent that fits in 64 bits. -/
  | int (n : Int64)
  /-- Any other number. -/
  | real (x : Float)
  | text (s : String)
  | array (items : List Json)
  | object (members : List (String × Json))
deriving Repr, Inhabited

end Fiction
