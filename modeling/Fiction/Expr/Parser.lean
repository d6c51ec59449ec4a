import Fiction.Expr.Basic
import Fiction.Expr.Token
import Fiction.Fault.Basic

/-!
# Fiction.Expr.Parser

Parsing tokens into expressions by binding powers.

Operators, loosest first:

* `or`, then `and`, then `not` in front of an operand;
* the comparisons;
* `|` and `&`, and the reductions with `|`;
* `+`, `-` and `.`;
* `*`, `/`, `//`, `%`, `%%`, `^`, `^^` and `!`;
* the signs in front of an operand;
* `**`, which groups to the right;
* indexing.

`Parser.parse` reads a whole expression. The functions under it take a bound on the depth of their
recursion; every level either consumes a token or hands over to one that does, so a multiple of the
number of tokens is enough.
-/

namespace Fiction

namespace Operator

/-- How tightly an operator holds the operands to its left and right. -/
def binding : Operator → Nat × Nat
  | or => (1, 2)
  | and => (3, 4)
  | equal | unequal | less | greater | atMost | atLeast => (7, 8)
  | bar | ampersand => (9, 10)
  | plus | minus | dot => (11, 12)
  | times | slash | doubleSlash | percent | doublePercent | caret | doubleCaret => (13, 14)
  | power => (18, 17)

/-- Operators that may have a third operand behind a tilde. -/
def takesThird : Operator → Bool
  | percent | doublePercent | dot => true
  | _ => false

end Operator

namespace Parser

/-- How tightly `not` holds its operand. -/
def notPower : Nat := 5

/-- How tightly a sign holds its operand. -/
def signPower : Nat := 15

/-- How tightly indexing holds what is indexed. -/
def indexPower : Nat := 20

/-- How tightly `!` holds the collection to its left. -/
def eachPower : Nat := 13

/-- How tightly `!` holds the body to its right. -/
def bodyPower : Nat := 14

/-- What was read and the tokens behind it. -/
abbrev Parsed (α : Type) := α × List Lexeme

/-- The expression ends where something else was expected. -/
def endOfInput (stop : Nat) (expected : String) : Flaw :=
  .of (.unexpected expected "end of expression") (.at stop)

/-- Another token stands where something was expected. -/
def unexpected (expected : String) (found : Lexeme) : Flaw :=
  .of (.unexpected expected found.token.describe) found.span

/-- Reads a mark and returns its range. At the end of the expression a closing bracket leaves its
partner unbalanced. -/
def expect (stop : Nat) (m : Mark) (what : String) : List Lexeme → Except Flaw (Parsed Span)
  | lexeme :: rest =>
      if lexeme.token.isMark m then .ok (lexeme.span, rest) else .error (unexpected what lexeme)
  | [] =>
      match m.opener? with
      | some opener => .error (.of (.unbalanced opener.char) (.at stop))
      | none => .error (endOfInput stop what)

/-- The sign that an operator is in front of an operand. -/
def sign? : Operator → Option Prefix
  | .minus => some .negate
  | .plus => some .affirm
  | _ => none

/-- Whether the next token is a mark. -/
def nextIs (m : Mark) : List Lexeme → Bool
  | lexeme :: _ => lexeme.token.isMark m
  | [] => false

mutual

/-- Reads an expression whose operators hold their left operands at least this tightly. -/
def expression (stop : Nat) : Nat → Nat → List Lexeme → Except Flaw (Parsed Expr)
  | 0, _, _ => .error (endOfInput stop "an expression")
  | n + 1, least, tokens => do
      let (left, rest) ← operand stop n tokens
      operators stop n least left rest

/-- Reads operators and their right operands behind an expression. -/
def operators (stop : Nat) : Nat → Nat → Expr → List Lexeme → Except Flaw (Parsed Expr)
  | 0, _, _, _ => .error (endOfInput stop "an expression")
  | _, _, left, [] => .ok (left, [])
  | n + 1, least, left, lexeme :: rest =>
      match lexeme.token with
      | .mark .openBracket =>
          if indexPower < least then .ok (left, lexeme :: rest)
          else do
            let (index, after) ← expression stop n 0 rest
            let (close, after) ← expect stop .closeBracket "']'" after
            operators stop n least (.index (left.span.join close) left index) after
      | .mark .bang =>
          if eachPower < least then .ok (left, lexeme :: rest)
          else do
            let (whole, after) ← each stop n left rest
            operators stop n least whole after
      | .operator op =>
          if op.binding.1 < least then .ok (left, lexeme :: rest)
          else do
            let (whole, after) ← infixed stop n left op lexeme.span rest
            operators stop n least whole after
      | _ => .ok (left, lexeme :: rest)

/-- Reads an operand: a literal, a name, an expression in brackets, or an operand with an operator
in front of it. -/
def operand (stop : Nat) : Nat → List Lexeme → Except Flaw (Parsed Expr)
  | 0, _ => .error (endOfInput stop "an expression")
  | _, [] => .error (endOfInput stop "an expression")
  | n + 1, lexeme :: rest =>
      let span := lexeme.span
      let prefixed (op : Prefix) (power : Nat) : Except Flaw (Parsed Expr) := do
        let (x, after) ← expression stop n power rest
        return (.unary (span.join x.span) op x, after)
      match lexeme.token with
      | .value v => .ok (.literal span v, rest)
      | .name s =>
          match Path.parse s with
          | .ok path => .ok (.lookup span path, rest)
          | .error cause => .error (.of cause span)
      | .binding c => .ok (.lookup span (.single (String.ofList [c])), rest)
      | .not => prefixed .not notPower
      | .operator op =>
          match sign? op with
          | some sign => prefixed sign signPower
          | none => .error (unexpected "an expression" lexeme)
      | .mark .openParen => do
          let (inner, after) ← expression stop n 0 rest
          let (close, after) ← expect stop .closeParen "')'" after
          return (inner.withSpan (span.join close), after)
      | .mark .openBracket => do
          let (items, after) ← items stop n rest
          let (close, after) ← expect stop .closeBracket "',' or ']'" after
          return (.list (span.join close) items, after)
      | .mark .openBrace => do
          let (entries, after) ← entries stop n rest
          let (close, after) ← expect stop .closeBrace "',' or '\x7d'" after
          return (.mapping (span.join close) entries, after)
      | _ => .error (unexpected "an expression" lexeme)

/-- Reads what follows an operator between operands. An operator behind `|` makes a reduction; if
it is also a sign, the right side is read a second time with the sign as part of it. -/
def infixed (stop : Nat) : Nat → Expr → Operator → Span → List Lexeme → Except Flaw (Parsed Expr)
  | 0, _, _, _, _ => .error (endOfInput stop "an expression")
  | n + 1, left, op, place, tokens => do
      match op, tokens with
      | .bar, lexeme@⟨.operator fold, _⟩ :: rest =>
          let signed :=
            match sign? fold with
            | some _ => (expression stop n op.binding.2 tokens).toOption
            | none => none
          let (seed, after) ← expression stop n op.binding.2 rest
          let signed :=
            match signed with
            | some (x, end_) => if end_.length = after.length then some x else none
            | none => none
          return (.reduce (left.span.join seed.span) fold (place.join lexeme.span) left seed signed,
            after)
      | _, _ =>
          let (right, after) ← expression stop n op.binding.2 tokens
          if op.takesThird && nextIs .tilde after then
            let (third, after) ← expression stop n op.binding.2 (after.drop 1)
            return (.ternary (left.span.join third.span) op place left right third, after)
          else return (.binary (left.span.join right.span) op place left right, after)

/-- Reads the body behind `!`: a call is kept as it is. -/
def each (stop : Nat) : Nat → Expr → List Lexeme → Except Flaw (Parsed Expr)
  | 0, _, _ => .error (endOfInput stop "an expression")
  | n + 1, collection, tokens => do
      match tokens with
      | ⟨.call c, span⟩ :: rest =>
          return (.eachCall (collection.span.join span) collection c, rest)
      | _ =>
          let (body, after) ← expression stop n bodyPower tokens
          return (.each (collection.span.join body.span) collection body, after)

/-- Reads the items of a list up to its closing bracket. -/
def items (stop : Nat) : Nat → List Lexeme → Except Flaw (Parsed (List Expr))
  | 0, _ => .error (endOfInput stop "an expression")
  | n + 1, tokens => do
      if nextIs .closeBracket tokens then return ([], tokens)
      else
        let (item, after) ← expression stop n 0 tokens
        if nextIs .comma after then
          let (rest, after) ← items stop n (after.drop 1)
          return (item :: rest, after)
        else return ([item], after)

/-- Reads the entries of a mapping up to its closing bracket. -/
def entries (stop : Nat) : Nat → List Lexeme → Except Flaw (Parsed (List (Expr × Expr)))
  | 0, _ => .error (endOfInput stop "an expression")
  | n + 1, tokens => do
      if nextIs .closeBrace tokens then return ([], tokens)
      else
        let (key, after) ← expression stop n 0 tokens
        let (_, after) ← expect stop .colon "':'" after
        let (value, after) ← expression stop n 0 after
        if nextIs .comma after then
          let (rest, after) ← entries stop n (after.drop 1)
          return ((key, value) :: rest, after)
        else return ([(key, value)], after)

end

/-- A depth of recursion that is enough for a number of tokens. -/
def depthFor (tokens : List Lexeme) : Nat :=
  4 * tokens.length + 4

/-- The expression that all tokens make up; `whole` is the range of the text they come from. -/
def parse (tokens : List Lexeme) (whole : Span) : Except Flaw Expr :=
  if tokens.isEmpty then .error (.of .emptyExpression whole)
  else do
    let (expr, rest) ← expression whole.stop (depthFor tokens) 0 tokens
    match rest with
    | [] => return expr
    | extra :: _ =>
        match extra.token with
        | .mark m =>
            if m.opener?.isSome then .error (.of (.unbalanced m.char) extra.span)
            else .error (unexpected "end of expression" extra)
        | _ => .error (unexpected "end of expression" extra)

end Parser

end Fiction
