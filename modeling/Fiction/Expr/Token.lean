import Fiction.Markup.Segment
import Fiction.Operator.Basic
import Fiction.Value.Printer

/-!
# Fiction.Expr.Token

The tokens of expressions.
-/

namespace Fiction

/-- Brackets and separators. -/
inductive Mark where
  | openParen
  | closeParen
  | openBracket
  | closeBracket
  | openBrace
  | closeBrace
  | comma
  | colon
  | tilde
  | bang
deriving Repr, DecidableEq, Inhabited

namespace Mark

/-- The character of a mark. -/
def char : Mark → Char
  | openParen => '('
  | closeParen => ')'
  | openBracket => '['
  | closeBracket => ']'
  | openBrace => '{'
  | closeBrace => '}'
  | comma => ','
  | colon => ':'
  | tilde => '~'
  | bang => '!'

/-- The mark with a character. -/
def ofChar? : Char → Option Mark
  | '(' => some openParen
  | ')' => some closeParen
  | '[' => some openBracket
  | ']' => some closeBracket
  | '{' => some openBrace
  | '}' => some closeBrace
  | ',' => some comma
  | ':' => some colon
  | '~' => some tilde
  | '!' => some bang
  | _ => none

/-- The bracket that a closing bracket pairs with. -/
def opener? : Mark → Option Mark
  | closeParen => some openParen
  | closeBracket => some openBracket
  | closeBrace => some openBrace
  | _ => none

end Mark

/-- A token of an expression. -/
inductive Token where
  /-- A literal, or the value that a call was expanded to. -/
  | value (v : Value)
  /-- The name of a variable, perhaps with dots. -/
  | name (s : String)
  /-- One of the bindings `?`, `@` and `#`. -/
  | binding (c : Char)
  /-- A call that is not expanded yet. -/
  | call (c : Call)
  /-- An operator between operands. -/
  | operator (op : Operator)
  /-- The word `not`. -/
  | not
  /-- A bracket or separator. -/
  | mark (m : Mark)
deriving Repr, Inhabited

namespace Token

/-- The token in messages about what was found. -/
def describe : Token → String
  | value v => s!"value {v.literal}"
  | name s => s!"name '{s}'"
  | binding c => s!"'{c}'"
  | call c => s!"macro '{c.name}'"
  | operator op => s!"'{op.symbol}'"
  | not => "'not'"
  | mark m => s!"'{m.char}'"

/-- Whether a token is a mark. -/
def isMark (m : Mark) : Token → Bool
  | mark m' => m == m'
  | _ => false

end Token

/-- A token and its range in the text. -/
structure Lexeme where
  /-- The token. -/
  token : Token
  /-- Where it stands. -/
  span : Span
deriving Repr, Inhabited

end Fiction
