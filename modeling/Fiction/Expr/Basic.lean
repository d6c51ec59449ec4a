import Fiction.Markup.Segment
import Fiction.Operator.Basic
import Fiction.Path
import Fiction.Value.Basic

/-!
# Fiction.Expr.Basic

Expressions as trees. Every node knows the range of the text it was read from.
-/

namespace Fiction

/-- An expression. -/
inductive Expr where
  /-- A value. -/
  | literal (span : Span) (value : Value)
  /-- The value at a path. -/
  | lookup (span : Span) (path : Path)
  /-- A list. -/
  | list (span : Span) (items : List Expr)
  /-- A mapping from keys to values. -/
  | mapping (span : Span) (entries : List (Expr × Expr))
  /-- An operator in front of an operand. -/
  | unary (span : Span) (op : Prefix) (operand : Expr)
  /-- An operator at a place between two operands. -/
  | binary (span : Span) (op : Operator) (place : Span) (left right : Expr)
  /-- An operator at a place with a third operand behind a tilde. -/
  | ternary (span : Span) (op : Operator) (place : Span) (left middle right : Expr)
  /-- An element of a value. -/
  | index (span : Span) (target index : Expr)
  /-- A list folded with an operator and a seed. For `-` and `+` there is a second reading, in which
  the operator is the sign of the right side. -/
  | reduce (span : Span) (op : Operator) (place : Span) (items seed : Expr) (signed : Option Expr)
  /-- An expression for each element of a collection. -/
  | each (span : Span) (collection body : Expr)
  /-- A call for each element of a collection. -/
  | eachCall (span : Span) (collection : Expr) (body : Call)
deriving Repr, Inhabited

namespace Expr

/-- The range of an expression. -/
def span : Expr → Span
  | literal s _ | lookup s _ | list s _ | mapping s _ | unary s _ _ | binary s _ _ _ _
  | ternary s _ _ _ _ _ | index s _ _ | reduce s _ _ _ _ _ | each s _ _ | eachCall s _ _ => s

/-- The same expression with another range: that of the parentheses around it. -/
def withSpan (s : Span) : Expr → Expr
  | literal _ v => literal s v
  | lookup _ p => lookup s p
  | list _ xs => list s xs
  | mapping _ es => mapping s es
  | unary _ op x => unary s op x
  | binary _ op o l r => binary s op o l r
  | ternary _ op o l m r => ternary s op o l m r
  | index _ t i => index s t i
  | reduce _ op o l x y => reduce s op o l x y
  | each _ c b => each s c b
  | eachCall _ c b => eachCall s c b

end Expr

end Fiction
