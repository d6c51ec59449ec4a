/-!
# Fiction.Operator.Basic

The operators of expressions.

* `Operator` has a value for each spelling between two operands. What an operator does depends on
  the kinds of its operands.
* `Prefix` has a value for each spelling in front of one operand.
-/

namespace Fiction

/-- An operator between two operands. -/
inductive Operator where
  | plus
  | minus
  | times
  | slash
  | doubleSlash
  | percent
  | doublePercent
  | power
  | caret
  | doubleCaret
  | dot
  | bar
  | ampersand
  | equal
  | unequal
  | less
  | greater
  | atMost
  | atLeast
  | and
  | or
deriving Repr, DecidableEq, Inhabited

namespace Operator

/-- The operator as authors write it. -/
def symbol : Operator → String
  | plus => "+"
  | minus => "-"
  | times => "*"
  | slash => "/"
  | doubleSlash => "//"
  | percent => "%"
  | doublePercent => "%%"
  | power => "**"
  | caret => "^"
  | doubleCaret => "^^"
  | dot => "."
  | bar => "|"
  | ampersand => "&"
  | equal => "="
  | unequal => "!="
  | less => "<"
  | greater => ">"
  | atMost => "<="
  | atLeast => ">="
  | and => "and"
  | or => "or"

/-- The operator with a spelling; equality has two. -/
def ofSymbol? : String → Option Operator
  | "+" => some plus
  | "-" => some minus
  | "*" => some times
  | "/" => some slash
  | "//" => some doubleSlash
  | "%" => some percent
  | "%%" => some doublePercent
  | "**" => some power
  | "^" => some caret
  | "^^" => some doubleCaret
  | "." => some dot
  | "|" => some bar
  | "&" => some ampersand
  | "=" => some equal
  | "==" => some equal
  | "!=" => some unequal
  | "<" => some less
  | ">" => some greater
  | "<=" => some atMost
  | ">=" => some atLeast
  | "and" => some and
  | "or" => some or
  | _ => none

/-- An operator is found by its own spelling. -/
theorem ofSymbol?_symbol (op : Operator) : ofSymbol? op.symbol = some op := by
  cases op <;> rfl

end Operator

/-- An operator in front of an operand. -/
inductive Prefix where
  | negate
  | affirm
  | not
deriving Repr, DecidableEq, Inhabited

/-- The operator as authors write it. -/
def Prefix.symbol : Prefix → String
  | negate => "-"
  | affirm => "+"
  | not => "not"

end Fiction
