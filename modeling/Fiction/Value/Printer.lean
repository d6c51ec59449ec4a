import Fiction.Decimal.Layout
import Fiction.Json.Quoted
import Fiction.Value.Basic

/-!
# Fiction.Value.Printer

The two texts of a value.

* `Value.display` is what a value leaves in running text: a text is itself and null is nothing.
* `Value.literal` is the value as an author would write it in an expression: texts are quoted and
  null is spelled out.

Inside lists and mappings both write elements as literals.
-/

namespace Fiction.Value

mutual

/-- The value as it would be written in an expression. -/
def literal : Value → String
  | null => "null"
  | bool b => if b then "true" else "false"
  | int n => Decimal.ofInt n.toInt
  | real x => Decimal.plain x
  | text s => Json.quote s
  | list items => "[" ++ literalItems items ++ "]"
  | mapping entries => "\x7b" ++ literalEntries entries ++ "\x7d"

/-- The elements of a list, separated by commas. -/
def literalItems : List Value → String
  | [] => ""
  | [v] => literal v
  | v :: rest => literal v ++ ", " ++ literalItems rest

/-- The entries of a mapping, separated by commas. -/
def literalEntries : List (String × Value) → String
  | [] => ""
  | [(k, v)] => Json.quote k ++ ": " ++ literal v
  | (k, v) :: rest => Json.quote k ++ ": " ++ literal v ++ ", " ++ literalEntries rest

end

/-- The value as it renders in a node's text. -/
def display : Value → String
  | null => ""
  | text s => s
  | v => literal v

end Fiction.Value
