import Fiction.Expansion.Basic
import Fiction.Expr.Lexer
import Fiction.Expr.Parser

/-!
# Fiction.Expansion.Evaluate

Evaluating expressions.

An expression is cut into tokens, its calls are expanded from left to right, and the tree of what
results is computed. A call behind `!` is not expanded at first: for each element its text is evaluated
once more, from its tokens on.

How a call is expanded is a parameter here.
-/

namespace Fiction.Expansion

/-- Expands a call to a value. -/
abbrev Caller := Call → Expansion Value

/-- Puts values in place of the calls among tokens. `afterBang` tells that `!` stands in front. -/
def expandCalls (call : Caller) : (afterBang : Bool) → List Lexeme → Expansion (List Lexeme)
  | _, [] => pure []
  | afterBang, lexeme :: rest => do
      let lexeme ←
        match lexeme.token, afterBang with
        | .call c, false => do
            let value ← call c
            pure ⟨.value value, lexeme.span⟩
        | _, _ => pure lexeme
      let rest ← expandCalls call (lexeme.token.isMark .bang) rest
      return lexeme :: rest

/-! ## Maps -/

/-- Runs the body of a map with an element, the collection and the key bound. -/
def runBody (body : Expansion Value) (whole element key : Value) : Expansion Value :=
  let frame := [("?", element), ("@", whole), ("#", key)]
  borrowing (·.push frame) (fun p _ => p.pop) body

/-- Runs the body for each element of a list. -/
def eachItem (body : Expansion Value) (whole : Value) : (index : Nat) → List Value →
    Expansion (List Value)
  | _, [] => pure []
  | index, v :: rest => do
      let result ← runBody body whole v (.int (Int64.ofNat index))
      let rest ← eachItem body whole (index + 1) rest
      return result :: rest

/-- Runs the body for each entry of a mapping. -/
def eachEntry (body : Expansion Value) (whole : Value) : List (String × Value) →
    Expansion (List (String × Value))
  | [] => pure []
  | (key, v) :: rest => do
      let result ← runBody body whole v (.text key)
      let rest ← eachEntry body whole rest
      return (key, result) :: rest

/-- Runs the body for each element of a collection at a place. -/
def mapEach (body : Expansion Value) (whole : Value) (span : Span) : Expansion Value :=
  match whole with
  | .list items => do return .list (← eachItem body whole 0 items)
  | .mapping entries => do return .mapping (← eachEntry body whole entries)
  | v => fail (.expectedKind "list or mapping" v.kind) span

/-! ## Trees -/

/-- The result of `|` with an operator behind it: a fold of a list, or else the operator `|` itself
with the signed right side. -/
def reduceValue (op : Operator) (place : Span) (folded : Value) (seed : Expansion Value)
    (signed : Option (Expansion Value)) : Expansion Value :=
  match folded, signed with
  | .list items, _ => do ofOutcome place (op.reduce items (← seed))
  | folded, some operand => do ofOutcome place (Operator.bar.apply folded (← operand))
  | folded, none => do
      let seed ← seed
      fail (.mismatch s!"| {op.symbol}" [folded.kind, seed.kind]) place

mutual

/-- The value of an expression. `deferred` runs a call behind `!`, once for each element. -/
def evalExpr (deferred : Caller) : Expr → Expansion Value
  | .literal _ v => pure v
  | .lookup span path => do ofOutcome span (← resolve path)
  | .list _ items => do return .list (← evalItems deferred items)
  | .mapping _ entries => do return .mapping (Mapping.ofEntries (← evalEntries deferred entries))
  | .unary span op x => do
      let v ← evalExpr deferred x
      ofOutcome span (op.apply v)
  | .binary _ .and _ l r => do
      let left ← evalExpr deferred l
      if left.isTruthy then evalExpr deferred r else pure left
  | .binary _ .or _ l r => do
      let left ← evalExpr deferred l
      if left.isTruthy then pure left else evalExpr deferred r
  | .binary _ op place l r => do
      let left ← evalExpr deferred l
      let right ← evalExpr deferred r
      ofOutcome place (op.apply left right)
  | .ternary _ op place l m r => do
      let left ← evalExpr deferred l
      let middle ← evalExpr deferred m
      let right ← evalExpr deferred r
      ofOutcome place (op.applyThird left middle right)
  | .index span t i => do
      let target ← evalExpr deferred t
      let index ← evalExpr deferred i
      ofOutcome span (target.index index)
  | .reduce _ op place l seed signed => do
      let folded ← evalExpr deferred l
      match signed with
      | some operand =>
          reduceValue op place folded (evalExpr deferred seed) (some (evalExpr deferred operand))
      | none => reduceValue op place folded (evalExpr deferred seed) none
  | .each _ c body => do
      let whole ← evalExpr deferred c
      mapEach (evalExpr deferred body) whole c.span
  | .eachCall _ c body => do
      let whole ← evalExpr deferred c
      mapEach (deferred body) whole c.span

/-- The values of the items of a list. -/
def evalItems (deferred : Caller) : List Expr → Expansion (List Value)
  | [] => pure []
  | x :: rest => do
      let v ← evalExpr deferred x
      let rest ← evalItems deferred rest
      return v :: rest

/-- The entries of a mapping. Keys have to be texts. -/
def evalEntries (deferred : Caller) : List (Expr × Expr) → Expansion (List (String × Value))
  | [] => pure []
  | (k, x) :: rest => do
      match ← evalExpr deferred k with
      | .text key =>
          let v ← evalExpr deferred x
          let rest ← evalEntries deferred rest
          return (key, v) :: rest
      | other => fail (.expectedKind "text key" other.kind) k.span

end

/-- The value of a fragment. `call` expands the calls in it, and `deferred` runs those behind `!`. -/
def evaluateWith (call deferred : Caller) (f : Fragment) : Expansion Value := do
  let tokens ← ofFlaw (Lexer.tokens f)
  let tokens ← expandCalls call false tokens
  let expr ← ofFlaw (Parser.parse tokens f.span)
  evalExpr deferred expr

/-- The value of a fragment whose deferred calls are nested no deeper than a bound. What runs for an
element is the text of the call, and not the call that was read before. -/
def nestedEvaluate (call : Caller) : Nat → Fragment → Expansion Value
  | 0, _ => pure .null
  | n + 1, f => evaluateWith call (fun c => nestedEvaluate call n c.source) f

/-- The value of a fragment that is an expression. The bound is not reached: the text of a deferred
call is a call that is not deferred. -/
def evaluate (call : Caller) (f : Fragment) : Expansion Value :=
  nestedEvaluate call (f.chars.length + 1) f

end Fiction.Expansion
