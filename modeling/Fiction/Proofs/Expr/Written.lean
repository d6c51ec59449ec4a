import Fiction.Proofs.Expr.Unbounded
import Fiction.Proofs.Path

/-!
# Fiction.Proofs.Expr.Written

**Every expression can be written, and is read back.** An operator may have any operand if there are
parentheses around it, so each tree has its tokens.

* `Expr.written` writes a tree. Operands that have operators are put in parentheses; where else there are
  some is left open.
* `Expr.bare` is a tree without its ranges, and `Expr.Proper` says which trees can be written.
* `Parser.Readable` is what is known of a tree whose tokens are read back: as an expression up to
  something that closes it, and as an operand whatever follows. There is a lemma for each form of
  expression, and `Parser.readable_of_proper` is the induction.
-/

namespace Fiction

/-! ## Trees and their tokens -/

/-- The token of a variable. -/
def Path.token (p : Path) : Token :=
  match p.head, p.tail with
  | "?", [] => .binding '?'
  | "@", [] => .binding '@'
  | "#", [] => .binding '#'
  | _, _ => .name p.text

/-- Tokens in parentheses, if these are wanted. -/
def inParens (wanted : Bool) (ts : List Token) : List Token :=
  if wanted then .mark .openParen :: ts ++ [.mark .closeParen] else ts

namespace Expr

/-- Expressions that have an operator at their top. -/
def isOperation : Expr → Bool
  | .literal .. | .lookup .. | .list .. | .mapping .. => false
  | .unary .. | .binary .. | .ternary .. | .index .. | .reduce .. | .each .. | .eachCall .. => true

mutual

/-- The tokens of an expression. Operands with operators are put in parentheses, and so is everything that
is `extra`. -/
def written (extra : Expr → Bool) : Expr → List Token
  | .literal _ v => [.value v]
  | .lookup _ p => [p.token]
  | .list _ items => .mark .openBracket :: writtenItems extra items ++ [.mark .closeBracket]
  | .mapping _ entries => .mark .openBrace :: writtenEntries extra entries ++ [.mark .closeBrace]
  | .unary _ op x => op.token :: inParens (x.isOperation || extra x) (x.written extra)
  | .binary _ op _ l r =>
      inParens (l.isOperation || extra l) (l.written extra) ++
        .operator op :: inParens (r.isOperation || extra r) (r.written extra)
  | .ternary _ op _ l m r =>
      inParens (l.isOperation || extra l) (l.written extra) ++
        .operator op :: (inParens (m.isOperation || extra m) (m.written extra) ++
          .mark .tilde :: inParens (r.isOperation || extra r) (r.written extra))
  | .index _ t i =>
      inParens (t.isOperation || extra t) (t.written extra) ++
        .mark .openBracket :: (inParens (extra i) (i.written extra) ++ [.mark .closeBracket])
  | .reduce _ op _ l seed _ =>
      inParens (l.isOperation || extra l) (l.written extra) ++
        .operator .bar :: .operator op :: inParens (seed.isOperation || extra seed) (seed.written extra)
  | .each _ c body =>
      inParens (c.isOperation || extra c) (c.written extra) ++
        .mark .bang :: inParens (body.isOperation || extra body) (body.written extra)
  | .eachCall _ c call =>
      inParens (c.isOperation || extra c) (c.written extra) ++ [.mark .bang, .call call]

/-- The tokens of the items of a list. -/
def writtenItems (extra : Expr → Bool) : List Expr → List Token
  | [] => []
  | [x] => inParens (extra x) (x.written extra)
  | x :: rest => inParens (extra x) (x.written extra) ++ .mark .comma :: writtenItems extra rest

/-- The tokens of the entries of a mapping. -/
def writtenEntries (extra : Expr → Bool) : List (Expr × Expr) → List Token
  | [] => []
  | [(k, x)] =>
      inParens (extra k) (k.written extra) ++ .mark .colon :: inParens (extra x) (x.written extra)
  | (k, x) :: rest =>
      inParens (extra k) (k.written extra) ++
        .mark .colon :: (inParens (extra x) (x.written extra) ++
          .mark .comma :: writtenEntries extra rest)

end

/-- The tokens of an expression as the operand of an operator. -/
def asOperand (extra : Expr → Bool) (e : Expr) : List Token :=
  inParens (e.isOperation || extra e) (e.written extra)

/-- The tokens of an expression between brackets. -/
def asPart (extra : Expr → Bool) (e : Expr) : List Token :=
  inParens (extra e) (e.written extra)

mutual

/-- The same expression without its ranges. -/
def bare : Expr → Expr
  | .literal _ v => .literal (.at 0) v
  | .lookup _ p => .lookup (.at 0) p
  | .list _ items => .list (.at 0) (bareItems items)
  | .mapping _ entries => .mapping (.at 0) (bareEntries entries)
  | .unary _ op x => .unary (.at 0) op x.bare
  | .binary _ op _ l r => .binary (.at 0) op (.at 0) l.bare r.bare
  | .ternary _ op _ l m r => .ternary (.at 0) op (.at 0) l.bare m.bare r.bare
  | .index _ t i => .index (.at 0) t.bare i.bare
  | .reduce _ op _ l seed none => .reduce (.at 0) op (.at 0) l.bare seed.bare none
  | .reduce _ op _ l seed (some x) => .reduce (.at 0) op (.at 0) l.bare seed.bare (some x.bare)
  | .each _ c body => .each (.at 0) c.bare body.bare
  | .eachCall _ c call => .eachCall (.at 0) c.bare call

def bareItems : List Expr → List Expr
  | [] => []
  | x :: rest => x.bare :: bareItems rest

def bareEntries : List (Expr × Expr) → List (Expr × Expr)
  | [] => []
  | (k, x) :: rest => (k.bare, x.bare) :: bareEntries rest

end

/-- Trees that can be written: paths are proper, only some operators have a third operand, and the second
reading of a reduction is that with a sign in front of the seed. -/
inductive Proper : Expr → Prop
  | literal {s v} : Proper (.literal s v)
  | lookup {s p} : p.IsProper → Proper (.lookup s p)
  | list {s items} : (∀ x ∈ items, Proper x) → Proper (.list s items)
  | mapping {s entries} : (∀ entry ∈ entries, Proper entry.1) →
      (∀ entry ∈ entries, Proper entry.2) → Proper (.mapping s entries)
  | unary {s op x} : Proper x → Proper (.unary s op x)
  | binary {s op place l r} : Proper l → Proper r → Proper (.binary s op place l r)
  | ternary {s op place l m r} : op.takesThird = true → Proper l → Proper m → Proper r →
      Proper (.ternary s op place l m r)
  | index {s t i} : Proper t → Proper i → Proper (.index s t i)
  | reduce {s op place l seed signed} : Proper l → Proper seed →
      signed.map bare = (Parser.sign? op).map (.unary (.at 0) · seed.bare) →
      Proper (.reduce s op place l seed signed)
  | each {s c body} : Proper c → Proper body → Proper (.each s c body)
  | eachCall {s c call} : Proper c → Proper (.eachCall s c call)

theorem bare_reduce (s : Span) (op : Operator) (place : Span) (l seed : Expr) (signed : Option Expr) :
    (reduce s op place l seed signed).bare =
      .reduce (.at 0) op (.at 0) l.bare seed.bare (signed.map bare) := by
  cases signed with
  | none => simp only [bare, Option.map_none]
  | some x => simp only [bare, Option.map_some]

theorem bare_withSpan (s : Span) (e : Expr) : (e.withSpan s).bare = e.bare := by
  cases e with
  | reduce => simp only [withSpan, bare_reduce]
  | _ => simp only [withSpan, bare]

variable (extra : Expr → Bool)

theorem writtenItems_cons_cons (x y : Expr) (rest : List Expr) :
    writtenItems extra (x :: y :: rest) =
      x.asPart extra ++ .mark .comma :: writtenItems extra (y :: rest) := by
  rw [writtenItems]
  · rfl
  · exact nofun

theorem writtenEntries_cons_cons (k x : Expr) (next : Expr × Expr) (rest : List (Expr × Expr)) :
    writtenEntries extra ((k, x) :: next :: rest) =
      k.asPart extra ++ .mark .colon :: (x.asPart extra ++
        .mark .comma :: writtenEntries extra (next :: rest)) := by
  rw [writtenEntries]
  · rfl
  · exact nofun

end Expr

/-- The tokens that an operand can start with. -/
def Token.opensOperand : Token → Bool
  | .value _ | .name _ | .binding _ | .mark .openParen | .mark .openBracket | .mark .openBrace => true
  | _ => false

theorem Path.token_cases (p : Path) :
    p.token = .name p.text ∨ ∃ c, p.token = .binding c ∧ p = .single (String.ofList [c]) := by
  obtain ⟨head, tail⟩ := p
  unfold token
  split
  · next hhead htail => exact .inr ⟨'?', rfl, by cases hhead; cases htail; rfl⟩
  · next hhead htail => exact .inr ⟨'@', rfl, by cases hhead; cases htail; rfl⟩
  · next hhead htail => exact .inr ⟨'#', rfl, by cases hhead; cases htail; rfl⟩
  · exact .inl rfl

theorem Path.opensOperand_token (p : Path) : p.token.opensOperand = true := by
  obtain name | ⟨c, binding, -⟩ := p.token_cases
  · rw [name, Token.opensOperand]
  · rw [binding, Token.opensOperand]

/-- A proper path is what its token is by itself. -/
theorem Path.leaf?_of_token {p : Path} (h : p.IsProper) {lexeme : Lexeme}
    (htoken : lexeme.token = p.token) : lexeme.leaf? = some (.lookup lexeme.span p) := by
  unfold Lexeme.leaf?
  obtain name | ⟨c, binding, single⟩ := p.token_cases
  · simp only [htoken, name, parse_text h]
  · simp only [htoken, binding, ← single]

theorem Expr.exists_opensOperand (extra : Expr → Bool) (e : Expr) :
    ∃ t ts, e.asOperand extra = t :: ts ∧ t.opensOperand = true := by
  unfold asOperand inParens
  split
  · exact ⟨_, _, rfl, rfl⟩
  · next closed =>
      cases e with
      | literal s v => exact ⟨_, _, by rw [written], rfl⟩
      | lookup s p => exact ⟨_, _, by rw [written], p.opensOperand_token⟩
      | list s items => exact ⟨_, _, by rw [written]; rfl, rfl⟩
      | mapping s entries => exact ⟨_, _, by rw [written]; rfl, rfl⟩
      | _ => exact absurd rfl closed

namespace Parser

/-! ## Reading back -/

variable {stop least : Nat} {extra : Expr → Bool} {e : Expr} {lexeme : Lexeme}
  {lexemes rest : List Lexeme}

theorem Closes.nextIs_tilde (h : Closes rest) : nextIs .tilde rest = false := by
  cases rest with
  | nil => rfl
  | cons lexeme rest =>
      obtain ⟨mark, hmark, token⟩ := h lexeme rfl
      rw [nextIs_of_token _ token, beq_eq_false_iff_ne]
      rintro rfl
      exact absurd hmark (by decide)

theorem ends_tilde (rest : List Lexeme) (h : lexeme.token = .mark .tilde) : Ends least (lexeme :: rest) := by
  rintro _ ⟨⟩
  rw [h]
  rfl

/-- Tokens that are read as an operand, whatever follows, and give a tree up to its ranges. -/
def Stands (e : Expr) (ts : List Token) : Prop :=
  ∀ stop rest {lexemes}, lexemes.map Lexeme.token = ts →
    ∃ x, readOperand stop (lexemes ++ rest) = .ok (x, rest) ∧ x.bare = e.bare

/-- Tokens that are read as an expression up to something that closes it, and give a tree up to its
ranges. -/
def Fills (e : Expr) (ts : List Token) : Prop :=
  ∀ stop {rest lexemes}, Closes rest → lexemes.map Lexeme.token = ts →
    ∃ x, readExpression stop 0 (lexemes ++ rest) = .ok (x, rest) ∧ x.bare = e.bare

/-- The tokens of an expression are read back, as an operand and between brackets. -/
structure Readable (extra : Expr → Bool) (e : Expr) : Prop where
  operand : Stands e (e.asOperand extra)
  part : Fills e (e.asPart extra)
  whole : Fills e (e.written extra)

/-- The lexemes of tokens between two marks. -/
theorem exists_enclosed {opening closing : Mark} {ts : List Token}
    (h : lexemes.map Lexeme.token = .mark opening :: ts ++ [.mark closing]) :
    ∃ left inner right, lexemes = left :: (inner ++ [right]) ∧ left.token = .mark opening ∧
      inner.map Lexeme.token = ts ∧ right.token = .mark closing := by
  obtain ⟨left, tail, rfl, hleft, htail⟩ := List.map_eq_cons_iff.mp h
  obtain ⟨inner, tail, rfl, hinner, htail⟩ := List.map_eq_append_iff.mp htail
  obtain ⟨right, rfl, hright⟩ := List.map_eq_singleton_iff.mp htail
  exact ⟨left, inner, right, rfl, hleft, hinner, hright⟩

section Reading

variable {ts more : List Token}

/-- The operators behind an operand take it over. -/
theorem Stands.exists_readOperators (h : Stands e ts) (stop least : Nat) (rest : List Lexeme)
    (htokens : lexemes.map Lexeme.token = ts ++ more) :
    ∃ x behind, x.bare = e.bare ∧ behind.map Lexeme.token = more ∧
      readExpression stop least (lexemes ++ rest) =
        readOperators stop least x (behind ++ rest) := by
  obtain ⟨front, behind, rfl, hfront, hbehind⟩ := List.map_eq_append_iff.mp htokens
  obtain ⟨x, hx, bare⟩ := h stop (behind ++ rest) hfront
  refine ⟨x, behind, bare, hbehind, ?_⟩
  rw [List.append_assoc, readExpression_eq, hx]
  rfl

/-- An operand is an expression by itself where no operator follows that would take it. -/
theorem Stands.exists_readExpression (h : Stands e ts) (stop least : Nat) (hrest : Ends least rest)
    (htokens : lexemes.map Lexeme.token = ts) :
    ∃ x, readExpression stop least (lexemes ++ rest) = .ok (x, rest) ∧ x.bare = e.bare := by
  rw [← List.append_nil ts] at htokens
  obtain ⟨x, behind, bare, hbehind, hread⟩ := h.exists_readOperators stop least rest htokens
  obtain rfl := List.map_eq_nil_iff.mp hbehind
  exact ⟨x, by rw [hread, List.nil_append, readOperators_of_ends hrest], bare⟩

theorem Stands.fills (h : Stands e ts) : Fills e ts :=
  fun stop _ _ hrest htokens => h.exists_readExpression stop 0 hrest.ends htokens

/-- In parentheses every expression is an operand. -/
theorem Fills.inParens (h : Fills e ts) : Stands e (inParens true ts) := by
  intro stop rest lexemes htokens
  obtain ⟨left, inner, right, rfl, hleft, hinner, hright⟩ := exists_enclosed htokens
  have closes : Closes (right :: rest) := .cons _ hright (by decide)
  obtain ⟨x, hx, bare⟩ := h stop closes hinner
  refine ⟨x.withSpan (left.span.join right.span), ?_, by rw [Expr.bare_withSpan, bare]⟩
  rw [List.cons_append, List.append_assoc, List.singleton_append, readOperand_paren hleft, hx]
  dsimp only [bind, Except.bind]
  rw [expect_of_token hright]
  rfl

end Reading

/-- What is read between brackets is an operand in parentheses. -/
theorem readable_of_fills (h : Fills e (e.written extra)) (operation : e.isOperation = true) :
    Readable extra e := by
  refine ⟨?_, ?_, h⟩
  · rw [Expr.asOperand, operation, Bool.true_or]
    exact h.inParens
  · rw [Expr.asPart]
    cases extra e with
    | true => exact h.inParens.fills
    | false => exact h

/-- What is read as an operand needs no parentheses. -/
theorem readable_of_stands (h : Stands e (e.written extra)) : Readable extra e := by
  have either (wanted : Bool) : Stands e (inParens wanted (e.written extra)) := by
    cases wanted with
    | true => exact h.fills.inParens
    | false => exact h
  exact ⟨either _, (either _).fills, h.fills⟩

/-! ## Closed forms -/

theorem Readable.literal {s : Span} {v : Value} : Readable extra (.literal s v) := by
  refine readable_of_stands fun stop rest lexemes htokens => ?_
  rw [Expr.written] at htokens
  obtain ⟨lexeme, rfl, token⟩ := List.map_eq_singleton_iff.mp htokens
  have leaf : lexeme.leaf? = some (.literal lexeme.span v) := by simp only [Lexeme.leaf?, token]
  exact ⟨_, readOperand_leaf leaf, by simp only [Expr.bare]⟩

theorem Readable.lookup {s : Span} {p : Path} (h : p.IsProper) : Readable extra (.lookup s p) := by
  refine readable_of_stands fun stop rest lexemes htokens => ?_
  rw [Expr.written] at htokens
  obtain ⟨lexeme, rfl, token⟩ := List.map_eq_singleton_iff.mp htokens
  exact ⟨_, readOperand_leaf (p.leaf?_of_token h token), by simp only [Expr.bare]⟩

/-- Where an expression is read, its collection does not close. -/
theorem nextIs_of_readExpression {found : Parsed Expr} {mark : Mark}
    (h : readExpression stop least lexemes = .ok found)
    (hmark : mark ∈ [Mark.closeBracket, .closeBrace]) : nextIs mark lexemes = false := by
  cases lexemes with
  | nil => rfl
  | cons lexeme rest =>
      rw [nextIs, Bool.eq_false_iff]
      intro closes
      have token : lexeme.token = .mark mark := by
        unfold Token.isMark at closes
        split at closes
        · next token => rw [token, eq_of_beq closes]
        · cases closes
      rw [readExpression_eq, readOperand, depthFor, operand] at h
      simp only [List.mem_cons, List.not_mem_nil, or_false] at hmark
      rcases hmark with rfl | rfl
      all_goals
        simp only [token] at h
        cases h

theorem exists_readItems {items : List Expr} (h : ∀ x ∈ items, Readable extra x) (stop : Nat)
    (rest : List Lexeme) (hclose : lexeme.token = .mark .closeBracket)
    (htokens : lexemes.map Lexeme.token = Expr.writtenItems extra items) :
    ∃ xs, readItems stop (lexemes ++ lexeme :: rest) = .ok (xs, lexeme :: rest) ∧
      Expr.bareItems xs = Expr.bareItems items := by
  induction items generalizing lexemes with
  | nil =>
      rw [Expr.writtenItems] at htokens
      obtain rfl := List.map_eq_nil_iff.mp htokens
      exact ⟨[], readItems_close (nextIs_of_token _ hclose), rfl⟩
  | cons x items ih =>
      obtain ⟨hx, hitems⟩ := List.forall_mem_cons.mp h
      cases items with
      | nil =>
          rw [Expr.writtenItems] at htokens
          have closes : Closes (lexeme :: rest) := .cons _ hclose (by decide)
          obtain ⟨y, hy, bare⟩ := hx.part stop closes htokens
          refine ⟨[y], ?_, by simp only [Expr.bareItems, bare]⟩
          rw [readItems_item (nextIs_of_readExpression hy (by decide)), hy]
          dsimp only [bind, Except.bind]
          rw [nextIs_of_token _ hclose]
          rfl
      | cons next items =>
          rw [Expr.writtenItems_cons_cons] at htokens
          obtain ⟨front, behind, rfl, hfront, hbehind⟩ := List.map_eq_append_iff.mp htokens
          obtain ⟨comma, behind, rfl, hcomma, hbehind⟩ := List.map_eq_cons_iff.mp hbehind
          have closes : Closes (comma :: (behind ++ lexeme :: rest)) := .cons _ hcomma (by decide)
          obtain ⟨y, hy, bare⟩ := hx.part stop closes hfront
          obtain ⟨ys, hys, bares⟩ := ih hitems hbehind
          refine ⟨y :: ys, ?_, by rw [Expr.bareItems, Expr.bareItems, bare, bares]⟩
          rw [List.append_assoc, List.cons_append,
            readItems_item (nextIs_of_readExpression hy (by decide)), hy]
          dsimp only [bind, Except.bind]
          rw [nextIs_of_token _ hcomma, if_pos (by decide), List.drop_one, List.tail_cons, hys]
          rfl

theorem Readable.list {s : Span} {items : List Expr} (h : ∀ x ∈ items, Readable extra x) :
    Readable extra (.list s items) := by
  refine readable_of_stands fun stop rest lexemes htokens => ?_
  rw [Expr.written] at htokens
  obtain ⟨left, inner, right, rfl, hleft, hinner, hright⟩ := exists_enclosed htokens
  obtain ⟨xs, hxs, bares⟩ := exists_readItems h stop rest hright hinner
  refine ⟨.list (left.span.join right.span) xs, ?_, by rw [Expr.bare, Expr.bare, bares]⟩
  rw [List.cons_append, List.append_assoc, List.singleton_append, readOperand_list hleft, hxs]
  dsimp only [bind, Except.bind]
  rw [expect_of_token hright]
  rfl

theorem exists_readEntries {entries : List (Expr × Expr)}
    (hkeys : ∀ entry ∈ entries, Readable extra entry.1)
    (hvalues : ∀ entry ∈ entries, Readable extra entry.2) (stop : Nat) (rest : List Lexeme)
    (hclose : lexeme.token = .mark .closeBrace)
    (htokens : lexemes.map Lexeme.token = Expr.writtenEntries extra entries) :
    ∃ xs, readEntries stop (lexemes ++ lexeme :: rest) = .ok (xs, lexeme :: rest) ∧
      Expr.bareEntries xs = Expr.bareEntries entries := by
  induction entries generalizing lexemes with
  | nil =>
      rw [Expr.writtenEntries] at htokens
      obtain rfl := List.map_eq_nil_iff.mp htokens
      exact ⟨[], readEntries_close (nextIs_of_token _ hclose), rfl⟩
  | cons entry entries ih =>
      obtain ⟨k, x⟩ := entry
      obtain ⟨hk, hkeys⟩ := List.forall_mem_cons.mp hkeys
      obtain ⟨hx, hvalues⟩ := List.forall_mem_cons.mp hvalues
      cases entries with
      | nil =>
          rw [Expr.writtenEntries] at htokens
          obtain ⟨front, behind, rfl, hfront, hbehind⟩ := List.map_eq_append_iff.mp htokens
          obtain ⟨colon, behind, rfl, hcolon, hbehind⟩ := List.map_eq_cons_iff.mp hbehind
          have keyCloses : Closes (colon :: (behind ++ lexeme :: rest)) := .cons _ hcolon (by decide)
          have valueCloses : Closes (lexeme :: rest) := .cons _ hclose (by decide)
          obtain ⟨key, hkey, bareKey⟩ := hk.part stop keyCloses hfront
          obtain ⟨value, hvalue, bareValue⟩ := hx.part stop valueCloses hbehind
          refine ⟨[(key, value)], ?_, by simp only [Expr.bareEntries, bareKey, bareValue]⟩
          rw [List.append_assoc, List.cons_append,
            readEntries_entry (nextIs_of_readExpression hkey (by decide)), hkey]
          dsimp only [bind, Except.bind]
          rw [expect_of_token hcolon]
          dsimp only
          rw [hvalue]
          dsimp only
          rw [nextIs_of_token _ hclose]
          rfl
      | cons next entries =>
          rw [Expr.writtenEntries_cons_cons] at htokens
          obtain ⟨front, behind, rfl, hfront, hbehind⟩ := List.map_eq_append_iff.mp htokens
          obtain ⟨colon, behind, rfl, hcolon, hbehind⟩ := List.map_eq_cons_iff.mp hbehind
          obtain ⟨middle, behind, rfl, hmiddle, hbehind⟩ := List.map_eq_append_iff.mp hbehind
          obtain ⟨comma, behind, rfl, hcomma, hbehind⟩ := List.map_eq_cons_iff.mp hbehind
          have valueCloses : Closes (comma :: (behind ++ lexeme :: rest)) := .cons _ hcomma (by decide)
          have keyCloses : Closes (colon :: (middle ++ comma :: (behind ++ lexeme :: rest))) :=
            .cons _ hcolon (by decide)
          obtain ⟨key, hkey, bareKey⟩ := hk.part stop keyCloses hfront
          obtain ⟨value, hvalue, bareValue⟩ := hx.part stop valueCloses hmiddle
          obtain ⟨xs, hxs, bares⟩ := ih hkeys hvalues hbehind
          refine ⟨(key, value) :: xs, ?_, by
            rw [Expr.bareEntries, Expr.bareEntries, bareKey, bareValue, bares]⟩
          rw [List.append_assoc, List.cons_append, List.append_assoc, List.cons_append,
            readEntries_entry (nextIs_of_readExpression hkey (by decide)), hkey]
          dsimp only [bind, Except.bind]
          rw [expect_of_token hcolon]
          dsimp only
          rw [hvalue]
          dsimp only
          rw [nextIs_of_token _ hcomma, if_pos (by decide), List.drop_one, List.tail_cons, hxs]
          rfl

theorem Readable.mapping {s : Span} {entries : List (Expr × Expr)}
    (hkeys : ∀ entry ∈ entries, Readable extra entry.1)
    (hvalues : ∀ entry ∈ entries, Readable extra entry.2) : Readable extra (.mapping s entries) := by
  refine readable_of_stands fun stop rest lexemes htokens => ?_
  rw [Expr.written] at htokens
  obtain ⟨left, inner, right, rfl, hleft, hinner, hright⟩ := exists_enclosed htokens
  obtain ⟨xs, hxs, bares⟩ := exists_readEntries hkeys hvalues stop rest hright hinner
  refine ⟨.mapping (left.span.join right.span) xs, ?_, by rw [Expr.bare, Expr.bare, bares]⟩
  rw [List.cons_append, List.append_assoc, List.singleton_append, readOperand_mapping hleft, hxs]
  dsimp only [bind, Except.bind]
  rw [expect_of_token hright]
  rfl

/-! ## Operations -/

/-- Behind an operator, an operand is not taken for a fold or a call. -/
theorem opensOperand_of_asOperand {x : Expr} (rest : List Lexeme)
    (htokens : lexemes.map Lexeme.token = x.asOperand extra) :
    ∀ lexeme ∈ (lexemes ++ rest).head?, lexeme.token.opensOperand = true := by
  obtain ⟨t, ts, hts, opens⟩ := x.exists_opensOperand extra
  rw [hts] at htokens
  obtain ⟨first, more, rfl, rfl, -⟩ := List.map_eq_cons_iff.mp htokens
  rintro _ ⟨⟩
  exact opens

/-- A sign takes the operand behind it and nothing else, however tightly the operators in front hold. -/
theorem exists_readExpression_sign {sign : Prefix} {x : Expr} (hx : Readable extra x) (stop least : Nat)
    (hrest : Closes rest) (hsign : lexeme.token = sign.token)
    (htokens : lexemes.map Lexeme.token = x.asOperand extra) :
    ∃ y, readExpression stop least (lexeme :: lexemes ++ rest) = .ok (y, rest) ∧
      y.bare = .unary (.at 0) sign x.bare := by
  obtain ⟨y, hy, bare⟩ := hx.operand.exists_readExpression stop sign.power hrest.ends htokens
  refine ⟨.unary (lexeme.span.join y.span) sign y, ?_, by rw [Expr.bare, bare]⟩
  rw [readExpression_eq, List.cons_append, readOperand_sign hsign, hy]
  exact readOperators_of_ends hrest.ends

theorem Readable.unary {s : Span} {op : Prefix} {x : Expr} (hx : Readable extra x) :
    Readable extra (.unary s op x) := by
  refine readable_of_fills (fun stop rest lexemes hrest htokens => ?_) rfl
  rw [Expr.written] at htokens
  obtain ⟨sign, behind, rfl, hsign, hbehind⟩ := List.map_eq_cons_iff.mp htokens
  obtain ⟨y, hy, bare⟩ := exists_readExpression_sign hx stop 0 hrest hsign hbehind
  exact ⟨y, hy, by rw [bare, Expr.bare]⟩

/-- An operator between operands: it is enough to read what is behind it. -/
theorem readable_of_infixed {l : Expr} {op : Operator} {ts : List Token} (hl : Readable extra l)
    (written : e.written extra = l.asOperand extra ++ .operator op :: ts)
    (operation : e.isOperation = true)
    (h : ∀ stop left place {rest lexemes}, left.bare = l.bare → Closes rest →
      lexemes.map Lexeme.token = ts →
        ∃ y, readInfixed stop left op place (lexemes ++ rest) = .ok (y, rest) ∧ y.bare = e.bare) :
    Readable extra e := by
  refine readable_of_fills (fun stop rest lexemes hrest htokens => ?_) operation
  rw [written] at htokens
  obtain ⟨left, behind, bareLeft, hbehind, hread⟩ := hl.operand.exists_readOperators stop 0 rest htokens
  obtain ⟨operator, behind, rfl, hoperator, hbehind⟩ := List.map_eq_cons_iff.mp hbehind
  obtain ⟨y, hy, bare⟩ := h stop left operator.span bareLeft hrest hbehind
  refine ⟨y, ?_, bare⟩
  rw [hread, List.cons_append, readOperators_operator hoperator (Nat.zero_le _), hy]
  exact readOperators_of_ends hrest.ends

/-- A bar is taken for that of a reduction only in front of an operator. -/
theorem token_ne_operator_of_asOperand {op : Operator} {x : Expr} (rest : List Lexeme)
    (htokens : lexemes.map Lexeme.token = x.asOperand extra) :
    op = .bar → ∀ lexeme ∈ (lexemes ++ rest).head?, ∀ fold, lexeme.token ≠ .operator fold := by
  intro _ lexeme hlexeme fold token
  have opens := opensOperand_of_asOperand rest htokens lexeme hlexeme
  rw [token] at opens
  cases opens

theorem Readable.binary {s place : Span} {op : Operator} {l r : Expr} (hl : Readable extra l)
    (hr : Readable extra r) : Readable extra (.binary s op place l r) := by
  refine readable_of_infixed hl (by rw [Expr.written]; rfl) rfl ?_
  intro stop left place rest lexemes bareLeft hrest htokens
  obtain ⟨right, hright, bareRight⟩ := hr.operand.exists_readExpression stop
    op.binding.2 hrest.ends htokens
  refine ⟨.binary (left.span.join right.span) op place left right, ?_, by
    rw [Expr.bare, Expr.bare, bareLeft, bareRight]⟩
  rw [readInfixed_operation (token_ne_operator_of_asOperand rest htokens), hright]
  dsimp only [bind, Except.bind]
  rw [hrest.nextIs_tilde, Bool.and_false]
  rfl

theorem Readable.ternary {s place : Span} {op : Operator} {l m r : Expr} (third : op.takesThird = true)
    (hl : Readable extra l) (hm : Readable extra m) (hr : Readable extra r) :
    Readable extra (.ternary s op place l m r) := by
  refine readable_of_infixed hl (by rw [Expr.written]; rfl) rfl ?_
  intro stop left place rest lexemes bareLeft hrest htokens
  obtain ⟨middle, behind, rfl, hmiddle, hbehind⟩ := List.map_eq_append_iff.mp htokens
  obtain ⟨tilde, behind, rfl, htilde, hbehind⟩ := List.map_eq_cons_iff.mp hbehind
  obtain ⟨y, hy, bareMiddle⟩ := hm.operand.exists_readExpression stop op.binding.2
    (ends_tilde (behind ++ rest) htilde) hmiddle
  obtain ⟨z, hz, bareRight⟩ := hr.operand.exists_readExpression stop
    op.binding.2 hrest.ends hbehind
  refine ⟨.ternary (left.span.join z.span) op place left y z, ?_, by
    rw [Expr.bare, Expr.bare, bareLeft, bareMiddle, bareRight]⟩
  rw [List.append_assoc, List.cons_append,
    readInfixed_operation (token_ne_operator_of_asOperand _ hmiddle), hy]
  dsimp only [bind, Except.bind]
  rw [third, nextIs_of_token _ htilde, if_pos (by decide), List.drop_one, List.tail_cons, hz]
  rfl

theorem token_eq_of_sign? {fold : Operator} {sign : Prefix} (h : sign? fold = some sign) :
    Token.operator fold = sign.token := by
  unfold sign? at h
  split at h <;> cases h <;> rfl

/-- The second reading of a reduction is that with a sign in front of the seed. -/
theorem bare_signedReading {fold : Operator} {seed : Expr} (hseed : Readable extra seed) (stop : Nat)
    (hrest : Closes rest) (hfold : lexeme.token = .operator fold)
    (htokens : lexemes.map Lexeme.token = seed.asOperand extra) :
    (signedReading stop fold (lexeme :: lexemes ++ rest) rest).map Expr.bare =
      (sign? fold).map (.unary (.at 0) · seed.bare) := by
  unfold signedReading
  cases hsign : sign? fold with
  | none => rfl
  | some sign =>
      rw [token_eq_of_sign? hsign] at hfold
      obtain ⟨y, hy, bare⟩ :=
        exists_readExpression_sign hseed stop Operator.bar.binding.2 hrest hfold htokens
      rw [hy]
      simp only [Option.bind_some, Except.toOption, if_true, Option.map_some, bare]

theorem Readable.reduce {s place : Span} {op : Operator} {l seed : Expr} {signed : Option Expr}
    (hl : Readable extra l) (hseed : Readable extra seed)
    (hsigned : signed.map Expr.bare = (sign? op).map (.unary (.at 0) · seed.bare)) :
    Readable extra (.reduce s op place l seed signed) := by
  refine readable_of_infixed hl (by rw [Expr.written]; rfl) rfl ?_
  intro stop left place rest lexemes bareLeft hrest htokens
  obtain ⟨fold, behind, rfl, hfold, hbehind⟩ := List.map_eq_cons_iff.mp htokens
  obtain ⟨y, hy, bareSeed⟩ := hseed.operand.exists_readExpression stop
    Operator.bar.binding.2 hrest.ends hbehind
  have second := bare_signedReading hseed stop hrest hfold hbehind
  refine ⟨_, by rw [List.cons_append, readInfixed_reduce hfold, hy]; rfl, ?_⟩
  rw [Expr.bare_reduce, Expr.bare_reduce, bareLeft, bareSeed, hsigned, ← second]
  rfl

theorem Readable.index {s : Span} {t i : Expr} (ht : Readable extra t) (hi : Readable extra i) :
    Readable extra (.index s t i) := by
  refine readable_of_fills (fun stop rest lexemes hrest htokens => ?_) rfl
  rw [Expr.written] at htokens
  obtain ⟨x, behind, bareTarget, hbehind, hread⟩ := ht.operand.exists_readOperators stop 0 rest htokens
  obtain ⟨left, inner, right, rfl, hleft, hinner, hright⟩ := exists_enclosed hbehind
  have closes : Closes (right :: rest) := .cons _ hright (by decide)
  obtain ⟨y, hy, bareIndex⟩ := hi.part stop closes hinner
  refine ⟨.index (x.span.join right.span) x y, ?_, by
    rw [Expr.bare, Expr.bare, bareTarget, bareIndex]⟩
  rw [hread, List.cons_append, List.append_assoc, List.singleton_append,
    readOperators_index hleft (Nat.zero_le _), hy]
  dsimp only [bind, Except.bind]
  rw [expect_of_token hright]
  exact readOperators_of_ends hrest.ends

theorem Readable.each {s : Span} {c body : Expr} (hc : Readable extra c) (hbody : Readable extra body) :
    Readable extra (.each s c body) := by
  refine readable_of_fills (fun stop rest lexemes hrest htokens => ?_) rfl
  rw [Expr.written] at htokens
  obtain ⟨x, behind, bare, hbehind, hread⟩ := hc.operand.exists_readOperators stop 0 rest htokens
  obtain ⟨bang, behind, rfl, hbang, hbehind⟩ := List.map_eq_cons_iff.mp hbehind
  obtain ⟨y, hy, bareBody⟩ := hbody.operand.exists_readExpression stop
    bodyPower hrest.ends hbehind
  have noCall : ∀ lexeme ∈ (behind ++ rest).head?, lexeme.token.call? = none := by
    intro lexeme hlexeme
    have opens := opensOperand_of_asOperand rest hbehind lexeme hlexeme
    cases token : lexeme.token with
    | call => rw [token] at opens; cases opens
    | _ => rfl
  refine ⟨.each (x.span.join y.span) x y, ?_, by rw [Expr.bare, Expr.bare, bare, bareBody]⟩
  rw [hread, List.cons_append, readOperators_each hbang (Nat.zero_le _), readEach_body noCall, hy]
  exact readOperators_of_ends hrest.ends

theorem Readable.eachCall {s : Span} {c : Expr} {call : Call} (hc : Readable extra c) :
    Readable extra (.eachCall s c call) := by
  refine readable_of_fills (fun stop rest lexemes hrest htokens => ?_) rfl
  rw [Expr.written] at htokens
  obtain ⟨x, behind, bare, hbehind, hread⟩ := hc.operand.exists_readOperators stop 0 rest htokens
  obtain ⟨bang, behind, rfl, hbang, hbehind⟩ := List.map_eq_cons_iff.mp hbehind
  obtain ⟨body, rfl, hbody⟩ := List.map_eq_singleton_iff.mp hbehind
  refine ⟨.eachCall (x.span.join body.span) x call, ?_, by rw [Expr.bare, Expr.bare, bare]⟩
  rw [hread, List.cons_append, List.singleton_append, readOperators_each hbang (Nat.zero_le _),
    readEach_call hbody]
  exact readOperators_of_ends hrest.ends

/-! ## Every tree -/

theorem readable_of_proper (extra : Expr → Bool) (h : e.Proper) : Readable extra e := by
  induction h with
  | literal => exact .literal
  | lookup proper => exact .lookup proper
  | list _ ih => exact .list ih
  | mapping _ _ ihk ihx => exact .mapping ihk ihx
  | unary _ ih => exact .unary ih
  | binary _ _ ihl ihr => exact .binary ihl ihr
  | ternary third _ _ _ ihl ihm ihr => exact .ternary third ihl ihm ihr
  | index _ _ iht ihi => exact .index iht ihi
  | reduce _ _ signed ihl ihs => exact .reduce ihl ihs signed
  | each _ _ ihc ihb => exact .each ihc ihb
  | eachCall _ ihc => exact .eachCall ihc

/-- **Every expression can be written, and is read back.** Whatever forms a tree is built from, its tokens
are parsed to the same tree, the ranges apart. Its operands that have operators are in parentheses, and
so is whatever else one likes. -/
theorem parse_written (extra : Expr → Bool) (h : e.Proper) (whole : Span)
    (htokens : lexemes.map Lexeme.token = e.written extra) :
    ∃ x, parse lexemes whole = .ok x ∧ x.bare = e.bare := by
  obtain ⟨x, hx, bare⟩ := (readable_of_proper extra h).whole whole.stop .nil htokens
  rw [List.append_nil] at hx
  refine ⟨x, parse_of_read ?_ hx, bare⟩
  rintro rfl
  cases hx

/-- A tree with all forms of expressions in it. -/
def manifold (call : Call) : Expr :=
  .ternary (.at 0) .percent (.at 0)
    (.index (.at 0)
      (.reduce (.at 0) .minus (.at 0) (.lookup (.at 0) ⟨"xs", []⟩) (.literal (.at 0) (.int 1))
        (some (.unary (.at 0) .negate (.literal (.at 0) (.int 1)))))
      (.literal (.at 0) (.int 0)))
    (.mapping (.at 0)
      [(.literal (.at 0) (.text "k"),
        .list (.at 0) [.unary (.at 0) .not (.lookup (.at 0) ⟨"a", ["b"]⟩), .literal (.at 0) .null])])
    (.each (.at 0)
      (.eachCall (.at 0) (.lookup (.at 0) ⟨"xs", []⟩) call)
      (.binary (.at 0) .bar (.at 0) (.lookup (.at 0) ⟨"?", []⟩) (.literal (.at 0) (.int 2))))

/-- The tokens of `((xs | - 1)[0]) % {"k": [not a.b, null]} ~ ((xs ! (call)) ! (? | 2))`. -/
def manifoldTokens (call : Call) : List Token :=
  [.mark .openParen, .mark .openParen, .name "xs", .operator .bar, .operator .minus, .value (.int 1),
    .mark .closeParen, .mark .openBracket, .value (.int 0), .mark .closeBracket, .mark .closeParen,
    .operator .percent, .mark .openBrace, .value (.text "k"), .mark .colon, .mark .openBracket, .not,
    .name "a.b", .mark .comma, .value .null, .mark .closeBracket, .mark .closeBrace, .mark .tilde,
    .mark .openParen, .mark .openParen, .name "xs", .mark .bang, .call call, .mark .closeParen,
    .mark .bang, .mark .openParen, .binding '?', .operator .bar, .value (.int 2), .mark .closeParen,
    .mark .closeParen]

/-- The bars, the brackets and the `!` are each read in two ways in it. -/
theorem parse_manifold :
    (manifold default).Proper ∧ (manifold default).written (fun _ => false) = manifoldTokens default ∧
      ∃ x, parse ((manifoldTokens default).map (⟨·, .at 0⟩)) (.at 0) = .ok x ∧
        x.bare = manifold default := by
  have proper : (manifold default).Proper := by
    refine .ternary rfl (.index (.reduce (.lookup (by decide)) .literal ?_) .literal)
      (.mapping ?_ ?_) (.each (.eachCall (.lookup (by decide))) (.binary (.lookup (by decide)) .literal))
    · simp only [Option.map_some, Expr.bare, sign?]
    · simpa using Expr.Proper.literal
    · simpa using Expr.Proper.list (by simpa using ⟨.unary (.lookup (by decide)), .literal⟩)
  have written : (manifold default).written (fun _ => false) = manifoldTokens default := rfl
  have bare : (manifold default).bare = manifold default := rfl
  refine ⟨proper, written, ?_⟩
  rw [← bare]
  exact parse_written (fun _ => false) proper (.at 0) (by rw [written]; rfl)

end Parser

end Fiction
