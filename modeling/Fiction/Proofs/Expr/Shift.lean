import Fiction.Proofs.Expr.Pieces
import Fiction.Proofs.Markup.Shift

/-!
# Fiction.Proofs.Expr.Shift

**Where an expression stands changes the ranges in it, and nothing else.** Tokens and trees can be
shifted as fragments can.

* `Lexer.tokens_shift`: the tokens of a text that was shifted are the tokens of the text, shifted.
* `Parser.parse_shift`: the parser never looks at a range, so the tree of shifted tokens is the shifted
  tree. `ShiftsAll` states this for all functions of the parser at once, and the induction is on the
  number that bounds their recursion.
-/

namespace Fiction

/-! ## Tokens and trees -/

/-- A call is the only token with a position of its own. -/
def Token.shift (k : Nat) : Token → Token
  | .call c => .call (c.shift k)
  | token => token

def Lexeme.shift (k : Nat) (l : Lexeme) : Lexeme :=
  ⟨l.token.shift k, l.span.shift k⟩

mutual

def Expr.shift (k : Nat) : Expr → Expr
  | .literal s v => .literal (s.shift k) v
  | .lookup s path => .lookup (s.shift k) path
  | .list s items => .list (s.shift k) (shiftItems k items)
  | .mapping s entries => .mapping (s.shift k) (shiftEntries k entries)
  | .unary s op x => .unary (s.shift k) op (x.shift k)
  | .binary s op place l r => .binary (s.shift k) op (place.shift k) (l.shift k) (r.shift k)
  | .ternary s op place l m r =>
      .ternary (s.shift k) op (place.shift k) (l.shift k) (m.shift k) (r.shift k)
  | .index s t i => .index (s.shift k) (t.shift k) (i.shift k)
  | .reduce s op place l seed none =>
      .reduce (s.shift k) op (place.shift k) (l.shift k) (seed.shift k) none
  | .reduce s op place l seed (some x) =>
      .reduce (s.shift k) op (place.shift k) (l.shift k) (seed.shift k) (some (x.shift k))
  | .each s c body => .each (s.shift k) (c.shift k) (body.shift k)
  | .eachCall s c body => .eachCall (s.shift k) (c.shift k) (body.shift k)

def Expr.shiftItems (k : Nat) : List Expr → List Expr
  | [] => []
  | x :: rest => x.shift k :: shiftItems k rest

def Expr.shiftEntries (k : Nat) : List (Expr × Expr) → List (Expr × Expr)
  | [] => []
  | (key, x) :: rest => (key.shift k, x.shift k) :: shiftEntries k rest

end

theorem Token.shift_of_call?_none (k : Nat) {token : Token} (h : token.call? = none) :
    token.shift k = token := by
  cases token with
  | call c => cases h
  | _ => rfl

@[simp] theorem Token.isMark_shift (k : Nat) (m : Mark) (token : Token) :
    (token.shift k).isMark m = token.isMark m := by
  cases token <;> rfl

@[simp] theorem Token.describe_shift (k : Nat) (token : Token) :
    (token.shift k).describe = token.describe := by
  cases token <;> rfl

@[simp] theorem Expr.span_shift (k : Nat) (e : Expr) : (e.shift k).span = e.span.shift k := by
  cases e with
  | reduce _ _ _ _ _ signed => cases signed <;> simp only [Expr.shift, Expr.span]
  | _ => simp only [Expr.shift, Expr.span]

theorem Expr.withSpan_shift (k : Nat) (s : Span) (e : Expr) :
    (e.shift k).withSpan (s.shift k) = (e.withSpan s).shift k := by
  cases e with
  | reduce _ _ _ _ _ signed => cases signed <;> simp only [Expr.shift, Expr.withSpan]
  | _ => simp only [Expr.shift, Expr.withSpan]

/-! ## The lexer -/

namespace Lexer

variable (k : Nat)

/-- A token that was read further on, and what follows it. -/
def shiftStep (found : Token × List Char) : Token × List Char :=
  (found.1.shift k, found.2)

theorem number_shift (offset : Nat) (cs : List Char) :
    number (k + offset) cs = shifted k (shiftStep k) (number offset cs) := by
  unfold number
  dsimp only
  rw [Nat.add_assoc]
  rcases fraction? (cs.dropWhile Char.isDigit) with _ | ⟨ds, after⟩
  · dsimp only
    split
    · rfl
    · rw [if_neg Bool.false_ne_true, if_neg Bool.false_ne_true]
      split
      · rfl
      · rfl
  · dsimp only
    split
    · rfl
    · rfl

theorem unexpectedAt_shift (offset : Nat) (c : Char) :
    unexpectedAt (k + offset) c = (unexpectedAt offset c).shift k := by
  rw [unexpectedAt, Nat.add_assoc]
  rfl

theorem plainToken_shift (offset : Nat) (c : Char) (cs : List Char) :
    plainToken (k + offset) c cs = shifted k (shiftStep k) (plainToken offset c cs) := by
  have plain {token : Token} {rest : List Char} (h : token.call? = none) :
      (.ok (token, rest) : Step) = shifted k (shiftStep k) (.ok (token, rest)) := by
    rw [shifted, shiftStep, token.shift_of_call?_none k h]
  unfold plainToken
  rw [number_shift, unexpectedAt_shift, Nat.add_assoc]
  split
  · rfl
  split
  · split
    · rfl
    · rfl
  split
  · exact plain (wordToken_all _).call?_eq_none
  split
  · split
    · rfl
    · rfl
    · rfl
  split
  · rfl
  split
  · rfl
  · split
    · rfl
    · rfl

theorem next_shift (offset : Nat) (c : Char) (cs : List Char) :
    next (k + offset) c cs = shifted k (shiftStep k) (next offset c cs) := by
  unfold next
  split
  · next text _ =>
      have single : Markup.singleCall ⟨k + offset, text⟩ = _ := Markup.singleCall_shift k ⟨offset, text⟩
      rw [single]
      refine shifted_bind fun found => ?_
      cases found with
      | none => exact plainToken_shift k offset c cs
      | some call => rfl
  · exact plainToken_shift k offset c cs

theorem tokensFrom_shift (n offset : Nat) (cs : List Char) :
    tokensFrom n (k + offset) cs = shifted k (List.map (·.shift k)) (tokensFrom n offset cs) := by
  induction n generalizing offset cs with
  | zero => rfl
  | succ n ih =>
      rw [tokensFrom, tokensFrom, Nat.add_assoc]
      dsimp only
      split
      · rfl
      · rw [next_shift]
        refine shifted_bind fun found => ?_
        obtain ⟨token, after⟩ := found
        dsimp only [shiftStep]
        rw [Nat.add_assoc, ih]
        exact shifted_bind fun _ => rfl

/-- **The tokens of an expression depend on where it stands in their ranges only.** -/
theorem tokens_shift (f : Fragment) :
    tokens (f.shift k) = shifted k (List.map (·.shift k)) (tokens f) := by
  unfold tokens
  rw [f.span_shift, Fragment.shift, tokensFrom_shift]
  refine shifted_bind fun found => ?_
  cases found with
  | nil => rfl
  | cons _ _ => rfl

end Lexer

/-! ## The parser -/

namespace Parser

variable {k stop n : Nat}

/-- What was read further on, and the tokens behind it. -/
def shiftRead {α : Type} (k : Nat) (f : α → α) (read : Parsed α) : Parsed α :=
  (f read.1, read.2.map (·.shift k))

theorem unexpected_shift (expected : String) (found : Lexeme) :
    unexpected expected (found.shift k) = (unexpected expected found).shift k := by
  rw [unexpected, Lexeme.shift, Token.describe_shift]
  rfl

theorem nextIs_shift (m : Mark) (tokens : List Lexeme) :
    nextIs m (tokens.map (·.shift k)) = nextIs m tokens := by
  cases tokens with
  | nil => rfl
  | cons lexeme rest => exact Token.isMark_shift k m lexeme.token

theorem expect_shift (m : Mark) (what : String) (tokens : List Lexeme) :
    expect (k + stop) m what (tokens.map (·.shift k)) =
      shifted k (shiftRead k (·.shift k)) (expect stop m what tokens) := by
  cases tokens with
  | nil =>
      rw [List.map_nil, expect, expect]
      split
      · rfl
      · rfl
  | cons lexeme rest =>
      rw [List.map_cons, expect, expect, unexpected_shift, Lexeme.shift, Token.isMark_shift]
      split
      · rfl
      · rfl

/-- What the functions of the parser do further on, when a number bounds their recursion. -/
structure ShiftsAll (k stop n : Nat) : Prop where
  expression : ∀ least tokens, expression (k + stop) n least (tokens.map (·.shift k)) =
    shifted k (shiftRead k (·.shift k)) (expression stop n least tokens)
  operators : ∀ least left tokens,
    operators (k + stop) n least (left.shift k) (tokens.map (·.shift k)) =
      shifted k (shiftRead k (·.shift k)) (operators stop n least left tokens)
  operand : ∀ tokens, operand (k + stop) n (tokens.map (·.shift k)) =
    shifted k (shiftRead k (·.shift k)) (operand stop n tokens)
  infixed : ∀ left op place tokens,
    infixed (k + stop) n (left.shift k) op (place.shift k) (tokens.map (·.shift k)) =
      shifted k (shiftRead k (·.shift k)) (infixed stop n left op place tokens)
  each : ∀ left tokens, each (k + stop) n (left.shift k) (tokens.map (·.shift k)) =
    shifted k (shiftRead k (·.shift k)) (each stop n left tokens)
  items : ∀ tokens, items (k + stop) n (tokens.map (·.shift k)) =
    shifted k (shiftRead k (Expr.shiftItems k)) (items stop n tokens)
  entries : ∀ tokens, entries (k + stop) n (tokens.map (·.shift k)) =
    shifted k (shiftRead k (Expr.shiftEntries k)) (entries stop n tokens)

section

variable (ih : ShiftsAll k stop n)

include ih

theorem expression_shift (least : Nat) (tokens : List Lexeme) :
    expression (k + stop) (n + 1) least (tokens.map (·.shift k)) =
      shifted k (shiftRead k (·.shift k)) (expression stop (n + 1) least tokens) := by
  rw [expression, expression, ih.operand]
  exact shifted_bind fun read => ih.operators least read.1 read.2

theorem operators_shift (least : Nat) (left : Expr) (tokens : List Lexeme) :
    operators (k + stop) (n + 1) least (left.shift k) (tokens.map (·.shift k)) =
      shifted k (shiftRead k (·.shift k)) (operators stop (n + 1) least left tokens) := by
  cases tokens with
  | nil => rfl
  | cons lexeme rest =>
      obtain ⟨token, span⟩ := lexeme
      rw [List.map_cons, operators, operators, Lexeme.shift]
      cases token with
      | mark m =>
          cases m with
          | openBracket =>
              dsimp only [Token.shift]
              split
              · rfl
              · rw [ih.expression]
                refine shifted_bind fun index => ?_
                dsimp only [shiftRead]
                rw [expect_shift]
                refine shifted_bind fun close => ?_
                dsimp only [shiftRead]
                rw [Expr.span_shift, Span.join_shift]
                exact ih.operators least (.index _ left index.1) close.2
          | bang =>
              dsimp only [Token.shift]
              split
              · rfl
              · rw [ih.each]
                exact shifted_bind fun whole => ih.operators least whole.1 whole.2
          | _ => rfl
      | operator op =>
          dsimp only [Token.shift]
          split
          · rfl
          · rw [ih.infixed]
            exact shifted_bind fun whole => ih.operators least whole.1 whole.2
      | _ => rfl

theorem operand_shift (tokens : List Lexeme) :
    operand (k + stop) (n + 1) (tokens.map (·.shift k)) =
      shifted k (shiftRead k (·.shift k)) (operand stop (n + 1) tokens) := by
  cases tokens with
  | nil => rfl
  | cons lexeme rest =>
      obtain ⟨token, span⟩ := lexeme
      have prefixed (op : Prefix) (power : Nat) :
          (do
            let read ← expression (k + stop) n power (rest.map (·.shift k))
            return (Expr.unary ((span.shift k).join read.1.span) op read.1, read.2)) =
          shifted k (shiftRead k (·.shift k)) (do
            let read ← expression stop n power rest
            return (Expr.unary (span.join read.1.span) op read.1, read.2)) := by
        rw [ih.expression]
        refine shifted_bind fun read => ?_
        dsimp only [shiftRead]
        rw [Expr.span_shift, Span.join_shift]
        rfl
      rw [List.map_cons, operand, operand, unexpected_shift, Lexeme.shift]
      cases token with
      | name s =>
          dsimp only [Token.shift]
          split
          · rfl
          · rfl
      | not => exact prefixed _ _
      | operator op =>
          dsimp only [Token.shift]
          split
          · exact prefixed _ _
          · rfl
      | mark m =>
          cases m with
          | openParen =>
              dsimp only [Token.shift]
              rw [ih.expression]
              refine shifted_bind fun inner => ?_
              dsimp only [shiftRead]
              rw [expect_shift]
              refine shifted_bind fun close => ?_
              dsimp only [shiftRead]
              rw [Span.join_shift, Expr.withSpan_shift]
              rfl
          | openBracket =>
              dsimp only [Token.shift]
              rw [ih.items]
              refine shifted_bind fun items => ?_
              dsimp only [shiftRead]
              rw [expect_shift]
              refine shifted_bind fun close => ?_
              dsimp only [shiftRead]
              rw [Span.join_shift]
              rfl
          | openBrace =>
              dsimp only [Token.shift]
              rw [ih.entries]
              refine shifted_bind fun entries => ?_
              dsimp only [shiftRead]
              rw [expect_shift]
              refine shifted_bind fun close => ?_
              dsimp only [shiftRead]
              rw [Span.join_shift]
              rfl
          | _ => rfl
      | _ => rfl

/-- An operator between two operands, or three. -/
theorem operation_shift (left : Expr) (op : Operator) (place : Span) (tokens : List Lexeme) :
    (do
      let right ← expression (k + stop) n op.binding.2 (tokens.map (·.shift k))
      if op.takesThird && nextIs .tilde right.2 then
        let third ← expression (k + stop) n op.binding.2 (right.2.drop 1)
        return (Expr.ternary ((left.shift k).span.join third.1.span) op (place.shift k) (left.shift k)
          right.1 third.1, third.2)
      else
        return (.binary ((left.shift k).span.join right.1.span) op (place.shift k) (left.shift k)
          right.1, right.2)) =
    shifted k (shiftRead k (·.shift k)) (do
      let right ← expression stop n op.binding.2 tokens
      if op.takesThird && nextIs .tilde right.2 then
        let third ← expression stop n op.binding.2 (right.2.drop 1)
        return (Expr.ternary (left.span.join third.1.span) op place left right.1 third.1, third.2)
      else return (.binary (left.span.join right.1.span) op place left right.1, right.2)) := by
  rw [ih.expression]
  refine shifted_bind fun right => ?_
  dsimp only [shiftRead]
  rw [nextIs_shift, ← List.map_drop]
  split
  · rw [ih.expression]
    refine shifted_bind fun third => ?_
    dsimp only [shiftRead]
    rw [Expr.span_shift, Expr.span_shift, Span.join_shift]
    rfl
  · rw [Expr.span_shift, Expr.span_shift, Span.join_shift]
    rfl

/-- A reduction. Its right side is read once more if the operator can be a sign. -/
theorem reduction_shift (left : Expr) (fold : Operator) (place span : Span) (rest : List Lexeme) :
    infixed (k + stop) (n + 1) (left.shift k) .bar (place.shift k)
        (⟨.operator fold, span.shift k⟩ :: rest.map (·.shift k)) =
      shifted k (shiftRead k (·.shift k))
        (infixed stop (n + 1) left .bar place (⟨.operator fold, span⟩ :: rest)) := by
  have again : expression (k + stop) n Operator.bar.binding.2
      (⟨.operator fold, span.shift k⟩ :: rest.map (·.shift k)) = _ :=
    ih.expression _ (⟨.operator fold, span⟩ :: rest)
  rw [infixed, infixed, ih.expression]
  refine shifted_bind fun seed => ?_
  dsimp only [shiftRead]
  rw [again, Expr.span_shift, Expr.span_shift, Span.join_shift, Span.join_shift]
  cases sign? fold with
  | none => rfl
  | some sign =>
      cases expression stop n Operator.bar.binding.2 (⟨.operator fold, span⟩ :: rest) with
      | error flaw => rfl
      | ok read =>
          dsimp only [shifted, shiftRead, Except.toOption]
          rw [List.length_map, List.length_map]
          split
          · rfl
          · rfl

theorem infixed_shift (left : Expr) (op : Operator) (place : Span) (tokens : List Lexeme) :
    infixed (k + stop) (n + 1) (left.shift k) op (place.shift k) (tokens.map (·.shift k)) =
      shifted k (shiftRead k (·.shift k)) (infixed stop (n + 1) left op place tokens) := by
  have operation := operation_shift ih left op place tokens
  cases tokens with
  | nil => cases op <;> exact operation
  | cons lexeme rest =>
      obtain ⟨token, span⟩ := lexeme
      cases token with
      | operator fold =>
          cases op with
          | bar => exact reduction_shift ih left fold place span rest
          | _ => exact operation
      | _ => cases op <;> exact operation

theorem each_shift (left : Expr) (tokens : List Lexeme) :
    each (k + stop) (n + 1) (left.shift k) (tokens.map (·.shift k)) =
      shifted k (shiftRead k (·.shift k)) (each stop (n + 1) left tokens) := by
  have body : (do
        let body ← expression (k + stop) n bodyPower (tokens.map (·.shift k))
        return (Expr.each ((left.shift k).span.join body.1.span) (left.shift k) body.1, body.2)) =
      shifted k (shiftRead k (·.shift k)) (do
        let body ← expression stop n bodyPower tokens
        return (Expr.each (left.span.join body.1.span) left body.1, body.2)) := by
    rw [ih.expression]
    refine shifted_bind fun body => ?_
    dsimp only [shiftRead]
    rw [Expr.span_shift, Expr.span_shift, Span.join_shift]
    rfl
  cases tokens with
  | nil => exact body
  | cons lexeme rest =>
      obtain ⟨token, span⟩ := lexeme
      cases token with
      | call c =>
          rw [List.map_cons, Lexeme.shift, Token.shift, each, each]
          rw [Expr.span_shift, Span.join_shift]
          rfl
      | _ => exact body

theorem items_shift (tokens : List Lexeme) :
    items (k + stop) (n + 1) (tokens.map (·.shift k)) =
      shifted k (shiftRead k (Expr.shiftItems k)) (items stop (n + 1) tokens) := by
  rw [items, items, nextIs_shift]
  split
  · rfl
  · rw [ih.expression]
    refine shifted_bind fun item => ?_
    dsimp only [shiftRead]
    rw [nextIs_shift, ← List.map_drop]
    split
    · rw [ih.items]
      exact shifted_bind fun _ => rfl
    · rfl

theorem entries_shift (tokens : List Lexeme) :
    entries (k + stop) (n + 1) (tokens.map (·.shift k)) =
      shifted k (shiftRead k (Expr.shiftEntries k)) (entries stop (n + 1) tokens) := by
  rw [entries, entries, nextIs_shift]
  split
  · rfl
  · rw [ih.expression]
    refine shifted_bind fun key => ?_
    dsimp only [shiftRead]
    rw [expect_shift]
    refine shifted_bind fun colon => ?_
    dsimp only [shiftRead]
    rw [ih.expression]
    refine shifted_bind fun value => ?_
    dsimp only [shiftRead]
    rw [nextIs_shift, ← List.map_drop]
    split
    · rw [ih.entries]
      exact shifted_bind fun _ => rfl
    · rfl

end

/-- No function of the parser looks at a range, however deep they recurse. -/
theorem shiftsAll (k stop : Nat) : ∀ n, ShiftsAll k stop n
  | 0 => by
      constructor <;> intros <;> rfl
  | n + 1 =>
      have ih := shiftsAll k stop n
      { expression := expression_shift ih
        operators := operators_shift ih
        operand := operand_shift ih
        infixed := infixed_shift ih
        each := each_shift ih
        items := items_shift ih
        entries := entries_shift ih }

/-- **The tree of an expression depends on where it stands in its ranges only.** -/
theorem parse_shift (k : Nat) (tokens : List Lexeme) (whole : Span) :
    parse (tokens.map (·.shift k)) (whole.shift k) = shifted k (·.shift k) (parse tokens whole) := by
  have depth : depthFor (tokens.map (·.shift k)) = depthFor tokens := by
    rw [depthFor, List.length_map, depthFor]
  have stop : (whole.shift k).stop = k + whole.stop := rfl
  unfold parse
  rw [List.isEmpty_map, depth, stop, (shiftsAll k whole.stop _).expression]
  split
  · rfl
  · refine shifted_bind fun read => ?_
    obtain ⟨e, rest⟩ := read
    cases rest with
    | nil => rfl
    | cons extra rest =>
        obtain ⟨token, span⟩ := extra
        cases token with
        | mark m => cases m <;> rfl
        | _ => rfl

end Parser

end Fiction
