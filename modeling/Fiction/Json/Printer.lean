import Fiction.Decimal.Layout
import Fiction.Json.Basic
import Fiction.Json.Quoted

/-!
# Fiction.Json.Printer

Writing data files.

* `Json.compact` writes a tree without blanks.
* `Json.pretty` writes one member or element per line, indented by two blanks a level; what is
  empty stays on its line.

A double that is not finite has no number and is written as null.
-/

namespace Fiction.Json

/-- A tree without parts. -/
def atom : Json → String
  | null => "null"
  | bool b => if b then "true" else "false"
  | int n => Decimal.ofInt n.toInt
  | real x => (Decimal.exchange? x).getD "null"
  | text s => quote s
  | array _ => "[]"
  | object _ => "\x7b\x7d"

mutual

/-- The tree without blanks. -/
def compact : Json → String
  | array items => "[" ++ compactItems items ++ "]"
  | object members => "\x7b" ++ compactMembers members ++ "\x7d"
  | j => atom j

/-- Elements separated by commas. -/
def compactItems : List Json → String
  | [] => ""
  | [j] => compact j
  | j :: rest => compact j ++ "," ++ compactItems rest

/-- Members separated by commas. -/
def compactMembers : List (String × Json) → String
  | [] => ""
  | [(k, j)] => quote k ++ ":" ++ compact j
  | (k, j) :: rest => quote k ++ ":" ++ compact j ++ "," ++ compactMembers rest

end

/-- The start of a line at a level. -/
def indent (level : Nat) : String :=
  String.ofList ('\n' :: List.replicate (2 * level) ' ')

mutual

/-- The tree on several lines, at a level of indentation. -/
def prettyAt (level : Nat) : Json → String
  | array [] => "[]"
  | array (j :: rest) =>
      "[" ++ indent (level + 1) ++ prettyAt (level + 1) j ++ prettyItems (level + 1) rest ++
        indent level ++ "]"
  | object [] => "\x7b\x7d"
  | object ((k, j) :: rest) =>
      "\x7b" ++ indent (level + 1) ++ quote k ++ ": " ++ prettyAt (level + 1) j ++
        prettyMembers (level + 1) rest ++ indent level ++ "\x7d"
  | j => atom j

/-- The elements after the first. -/
def prettyItems (level : Nat) : List Json → String
  | [] => ""
  | j :: rest => "," ++ indent level ++ prettyAt level j ++ prettyItems level rest

/-- The members after the first. -/
def prettyMembers (level : Nat) : List (String × Json) → String
  | [] => ""
  | (k, j) :: rest =>
      "," ++ indent level ++ quote k ++ ": " ++ prettyAt level j ++ prettyMembers level rest

end

/-- The tree on several lines. -/
def pretty (j : Json) : String :=
  prettyAt 0 j

end Fiction.Json
