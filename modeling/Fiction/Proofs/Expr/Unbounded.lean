import Fiction.Proofs.Expr.Bounds

/-!
# Fiction.Proofs.Expr.Unbounded

**The parser without its bound.** The functions of the parser take a bound on the depth of their
recursion that is never reached, so they can be read as if there were none.

* `readExpression`, `readOperators` and the others are the functions of the parser with a bound that is
  enough for the tokens.
* Their equations say what each of them does with the token in front of it, and mention no bound.
* `Ends` says where an expression does not go on: there `readOperators` returns what it has. It does not
  go on in front of a mark that `Closes` it.
-/

namespace Fiction

/-- The token of an operator in front of an operand. -/
def Prefix.token : Prefix → Token
  | .negate => .operator .minus
  | .affirm => .operator .plus
  | .not => .not

/-- How tightly an operator in front of an operand holds it. -/
def Prefix.power : Prefix → Nat
  | .negate | .affirm => Parser.signPower
  | .not => Parser.notPower

/-- The expression that a token is by itself: a value, or the name of a variable. -/
def Lexeme.leaf? (lexeme : Lexeme) : Option Expr :=
  match lexeme.token with
  | .value v => some (.literal lexeme.span v)
  | .name s =>
      match Path.parse s with
      | .ok path => some (.lookup lexeme.span path)
      | .error _ => none
  | .binding c => some (.lookup lexeme.span (.single (String.ofList [c])))
  | _ => none

namespace Parser

variable {stop n least : Nat} {left : Expr} {op : Operator} {place : Span} {lexeme : Lexeme}
  {tokens rest : List Lexeme}

/-! ## The functions -/

/-- Reads an expression whose operators hold their left operands at least this tightly. -/
def readExpression (stop least : Nat) (tokens : List Lexeme) : Except Flaw (Parsed Expr) :=
  expression stop (depthFor tokens) least tokens

/-- Reads operators and their right operands behind an expression. -/
def readOperators (stop least : Nat) (left : Expr) (tokens : List Lexeme) :
    Except Flaw (Parsed Expr) :=
  operators stop (depthFor tokens) least left tokens

/-- Reads an operand. -/
def readOperand (stop : Nat) (tokens : List Lexeme) : Except Flaw (Parsed Expr) :=
  operand stop (depthFor tokens) tokens

/-- Reads what follows an operator between operands. -/
def readInfixed (stop : Nat) (left : Expr) (op : Operator) (place : Span) (tokens : List Lexeme) :
    Except Flaw (Parsed Expr) :=
  infixed stop (depthFor tokens) left op place tokens

/-- Reads the body behind `!`. -/
def readEach (stop : Nat) (collection : Expr) (tokens : List Lexeme) : Except Flaw (Parsed Expr) :=
  each stop (depthFor tokens) collection tokens

/-- Reads the items of a list. -/
def readItems (stop : Nat) (tokens : List Lexeme) : Except Flaw (Parsed (List Expr)) :=
  items stop (depthFor tokens) tokens

/-- Reads the entries of a mapping. -/
def readEntries (stop : Nat) (tokens : List Lexeme) :
    Except Flaw (Parsed (List (Expr × Expr))) :=
  entries stop (depthFor tokens) tokens

/-! Any bound that is enough gives the same. -/

/-- Three steps for each token, and a few to begin with, are enough. -/
theorem expression_eq_read (h : 3 * tokens.length + 3 ≤ n) :
    expression stop n least tokens = readExpression stop least tokens :=
  (boundedAll stop n _).expression (by omega) (by unfold depthFor; omega)

theorem operators_eq_read (h : 3 * tokens.length + 3 ≤ n) :
    operators stop n least left tokens = readOperators stop least left tokens :=
  (boundedAll stop n _).operators (by omega) (by unfold depthFor; omega)

theorem operand_eq_read (h : 3 * tokens.length + 3 ≤ n) :
    operand stop n tokens = readOperand stop tokens :=
  (boundedAll stop n _).operand (by omega) (by unfold depthFor; omega)

theorem infixed_eq_read (h : 3 * tokens.length + 3 ≤ n) :
    infixed stop n left op place tokens = readInfixed stop left op place tokens :=
  (boundedAll stop n _).infixed (by omega) (by unfold depthFor; omega)

theorem each_eq_read (h : 3 * tokens.length + 3 ≤ n) :
    each stop n left tokens = readEach stop left tokens :=
  (boundedAll stop n _).each (by omega) (by unfold depthFor; omega)

theorem items_eq_read (h : 3 * tokens.length + 3 ≤ n) :
    items stop n tokens = readItems stop tokens :=
  (boundedAll stop n _).items (by omega) (by unfold depthFor; omega)

theorem entries_eq_read (h : 3 * tokens.length + 3 ≤ n) :
    entries stop n tokens = readEntries stop tokens :=
  (boundedAll stop n _).entries (by omega) (by unfold depthFor; omega)

/-! ## Marks -/

section Marks

variable {mark : Mark}

/-- A mark in front is the one that is asked for or another one. -/
theorem nextIs_of_token (other : Mark) (h : lexeme.token = .mark mark) :
    nextIs other (lexeme :: rest) = (other == mark) := by
  rw [nextIs, h, Token.isMark]

/-- The mark that is expected is passed over. -/
theorem expect_of_token {what : String} (h : lexeme.token = .mark mark) :
    expect stop mark what (lexeme :: rest) = .ok (lexeme.span, rest) := by
  rw [expect, h, Token.isMark, if_pos (beq_self_eq_true mark)]

/-- What may follow an expression between brackets. -/
def Closes (rest : List Lexeme) : Prop :=
  ∀ lexeme ∈ rest.head?, ∃ mark ∈ [Mark.closeParen, .closeBracket, .closeBrace, .comma, .colon],
    lexeme.token = .mark mark

/-- Nothing may follow an expression. -/
theorem Closes.nil : Closes [] :=
  nofun

theorem Closes.cons (rest : List Lexeme) (h : lexeme.token = .mark mark)
    (hmark : mark ∈ [Mark.closeParen, .closeBracket, .closeBrace, .comma, .colon]) :
    Closes (lexeme :: rest) := by
  rintro _ ⟨⟩
  exact ⟨mark, hmark, h⟩

end Marks

/-! ## Expressions -/

/-- **An expression is an operand with operators behind it.** -/
theorem readExpression_eq (stop least : Nat) (tokens : List Lexeme) :
    readExpression stop least tokens =
      readOperand stop tokens >>= fun found => readOperators stop least found.1 found.2 := by
  rw [readExpression, depthFor, expression, operand_eq_read (by omega)]
  refine Outcome.bind_congr fun found hfound => ?_
  have shorter := ((takesAny stop _).operand (all_trivial tokens)).length_le hfound
  exact operators_eq_read (by omega)

/-! ## Operators -/

/-- Whether an expression goes on with a token. -/
def goesOn (least : Nat) : Token → Bool
  | .mark .openBracket => decide (least ≤ indexPower)
  | .mark .bang => decide (least ≤ eachPower)
  | .operator op => decide (least ≤ op.binding.1)
  | _ => false

/-- An expression does not go on with these tokens. -/
def Ends (least : Nat) (tokens : List Lexeme) : Prop :=
  ∀ lexeme ∈ tokens.head?, goesOn least lexeme.token = false

/-- Where the expression does not go on, no bound is used up. -/
theorem operators_of_ends (h : Ends least tokens) :
    operators stop (n + 1) least left tokens = .ok (left, tokens) := by
  cases tokens with
  | nil => rfl
  | cons lexeme rest =>
      have loose := h lexeme rfl
      rw [operators]
      split
      · next bracket =>
          rw [bracket] at loose
          exact if_pos (Nat.not_le.mp (of_decide_eq_false loose))
      · next bang =>
          rw [bang] at loose
          exact if_pos (Nat.not_le.mp (of_decide_eq_false loose))
      · next op operator =>
          rw [operator] at loose
          exact if_pos (Nat.not_le.mp (of_decide_eq_false loose))
      · rfl

theorem readOperators_of_ends (h : Ends least tokens) :
    readOperators stop least left tokens = .ok (left, tokens) :=
  operators_of_ends h

/-- No closing mark, comma or colon goes on with an expression. -/
theorem Closes.ends (h : Closes rest) : Ends least rest := by
  intro lexeme hlexeme
  obtain ⟨mark, hmark, token⟩ := h lexeme hlexeme
  rw [token]
  simp only [List.mem_cons, List.not_mem_nil, or_false] at hmark
  rcases hmark with rfl | rfl | rfl | rfl | rfl
  all_goals rfl

/-- An opening bracket behind an expression takes an element of it. -/
theorem readOperators_index (h : lexeme.token = .mark .openBracket) (hleast : least ≤ indexPower) :
    readOperators stop least left (lexeme :: rest) = (do
      let index ← readExpression stop 0 rest
      let close ← expect stop .closeBracket "']'" index.2
      readOperators stop least (.index (left.span.join close.1) left index.1) close.2) := by
  rw [readOperators, depthFor, List.length_cons, operators]
  simp only [h]
  rw [if_neg (Nat.not_lt.mpr hleast), expression_eq_read (by omega)]
  refine Outcome.bind_congr fun index hindex => ?_
  have behindIndex : index.2.length ≤ rest.length := expression_length_le hindex
  refine Outcome.bind_congr fun close hclose => ?_
  have behindClose := expect_length_le hclose
  exact operators_eq_read (by omega)

/-- Behind `!` comes the body of a map. -/
theorem readOperators_each (h : lexeme.token = .mark .bang) (hleast : least ≤ eachPower) :
    readOperators stop least left (lexeme :: rest) =
      readEach stop left rest >>= fun whole => readOperators stop least whole.1 whole.2 := by
  rw [readOperators, depthFor, List.length_cons, operators]
  simp only [h]
  rw [if_neg (Nat.not_lt.mpr hleast), each_eq_read (by omega)]
  refine Outcome.bind_congr fun whole hwhole => ?_
  have shorter := ((takesAny stop _).each left.all_trivial (all_trivial rest)).length_le hwhole
  exact operators_eq_read (by omega)

/-- An operator that holds tightly enough takes all that is to its left. -/
theorem readOperators_operator (h : lexeme.token = .operator op) (hleast : least ≤ op.binding.1) :
    readOperators stop least left (lexeme :: rest) =
      readInfixed stop left op lexeme.span rest >>= fun whole =>
        readOperators stop least whole.1 whole.2 := by
  rw [readOperators, depthFor, List.length_cons, operators]
  simp only [h]
  rw [if_neg (Nat.not_lt.mpr hleast), infixed_eq_read (by omega)]
  refine Outcome.bind_congr fun whole hwhole => ?_
  have shorter :=
    ((takesAny stop _).infixed left.all_trivial trivial (all_trivial rest)).length_le hwhole
  exact operators_eq_read (by omega)

/-! ## Operands -/

/-- A value or the name of a variable is an operand by itself. -/
theorem readOperand_leaf {x : Expr} (h : lexeme.leaf? = some x) :
    readOperand stop (lexeme :: rest) = .ok (x, rest) := by
  unfold Lexeme.leaf? at h
  rw [readOperand, depthFor, operand]
  split at h
  · next token => simp only [token, Option.some.inj h]
  · next token =>
      split at h
      · next parsed => simp only [token, parsed, Option.some.inj h]
      · cases h
  · next token => simp only [token, Option.some.inj h]
  · cases h

/-- A sign takes the expression behind it that holds more tightly than the sign does. -/
theorem readOperand_sign {sign : Prefix} (h : lexeme.token = sign.token) :
    readOperand stop (lexeme :: rest) =
      readExpression stop sign.power rest >>= fun x =>
        .ok (.unary (lexeme.span.join x.1.span) sign x.1, x.2) := by
  rw [readOperand, depthFor, List.length_cons, operand]
  have enough {least : Nat} : expression stop (4 * (rest.length + 1) + 3) least rest =
      readExpression stop least rest := expression_eq_read (by omega)
  simp only [h, enough]
  cases sign with
  | negate => rfl
  | affirm => rfl
  | not => rfl

/-- Parentheses are seen in the range of what they enclose and nowhere else. -/
theorem readOperand_paren (h : lexeme.token = .mark .openParen) :
    readOperand stop (lexeme :: rest) = (do
      let inner ← readExpression stop 0 rest
      let close ← expect stop .closeParen "')'" inner.2
      return (inner.1.withSpan (lexeme.span.join close.1), close.2)) := by
  rw [readOperand, depthFor, List.length_cons, operand]
  simp only [h]
  rw [expression_eq_read (by omega)]

/-- A list ends with its bracket. -/
theorem readOperand_list (h : lexeme.token = .mark .openBracket) :
    readOperand stop (lexeme :: rest) = (do
      let items ← readItems stop rest
      let close ← expect stop .closeBracket "',' or ']'" items.2
      return (.list (lexeme.span.join close.1) items.1, close.2)) := by
  rw [readOperand, depthFor, List.length_cons, operand]
  simp only [h]
  rw [items_eq_read (by omega)]

/-- A mapping ends with its brace. -/
theorem readOperand_mapping (h : lexeme.token = .mark .openBrace) :
    readOperand stop (lexeme :: rest) = (do
      let entries ← readEntries stop rest
      let close ← expect stop .closeBrace "',' or '\x7d'" entries.2
      return (.mapping (lexeme.span.join close.1) entries.1, close.2)) := by
  rw [readOperand, depthFor, List.length_cons, operand]
  simp only [h]
  rw [entries_eq_read (by omega)]

/-- What a token can be at the start of an operand. Any other token is a flaw, whatever follows, and the
path that it may be about is a name that cannot be read. -/
theorem readOperand_cases (lexeme : Lexeme) : (∃ x, lexeme.leaf? = some x) ∨
    (∃ sign : Prefix, lexeme.token = sign.token) ∨ lexeme.token = .mark .openParen ∨
    lexeme.token = .mark .openBracket ∨ lexeme.token = .mark .openBrace ∨
    ∃ flaw, (∀ path, flaw.cause = .invalidPath path →
        ∃ s, lexeme.token = .name s ∧ Path.parse s = .error flaw.cause) ∧
      ∀ stop rest, readOperand stop (lexeme :: rest) = .error flaw := by
  have other (h : ∀ stop rest, readOperand stop (lexeme :: rest) =
      .error (unexpected "an expression" lexeme)) :
      ∃ flaw, (∀ path, flaw.cause = .invalidPath path →
          ∃ s, lexeme.token = .name s ∧ Path.parse s = .error flaw.cause) ∧
        ∀ stop rest, readOperand stop (lexeme :: rest) = .error flaw := by
    refine ⟨_, fun path cause => ?_, h⟩
    cases cause
  obtain ⟨token, span⟩ := lexeme
  cases token with
  | value v => exact .inl ⟨_, rfl⟩
  | binding c => exact .inl ⟨_, rfl⟩
  | name s =>
      cases parsed : Path.parse s with
      | ok path => exact .inl ⟨.lookup span path, by simp only [Lexeme.leaf?, parsed]⟩
      | error cause =>
          refine .inr (.inr (.inr (.inr (.inr ⟨.of cause span, fun _ _ => ⟨s, rfl, parsed⟩,
            fun stop rest => ?_⟩))))
          rw [readOperand, depthFor, operand]
          simp only [parsed]
  | not => exact .inr (.inl ⟨.not, rfl⟩)
  | call c => exact .inr (.inr (.inr (.inr (.inr (other fun _ _ => rfl)))))
  | operator op =>
      cases op with
      | plus => exact .inr (.inl ⟨.affirm, rfl⟩)
      | minus => exact .inr (.inl ⟨.negate, rfl⟩)
      | _ => exact .inr (.inr (.inr (.inr (.inr (other fun _ _ => rfl)))))
  | mark m =>
      cases m with
      | openParen => exact .inr (.inr (.inl rfl))
      | openBracket => exact .inr (.inr (.inr (.inl rfl)))
      | openBrace => exact .inr (.inr (.inr (.inr (.inl rfl))))
      | _ => exact .inr (.inr (.inr (.inr (.inr (other fun _ _ => rfl)))))

/-! ## Behind operators -/

/-- The second reading of the right side of a reduction, in which the operator is its sign. It has to
end where the first one does. -/
def signedReading (stop : Nat) (fold : Operator) (tokens after : List Lexeme) : Option Expr :=
  (sign? fold).bind fun _ =>
    (readExpression stop Operator.bar.binding.2 tokens).toOption.bind fun x =>
      if x.2.length = after.length then some x.1 else none

/-- A bar with an operator behind it is read as a fold. If the operator can be a sign, the right
side is read a second time together with it. -/
theorem readInfixed_reduce {fold : Operator} (h : lexeme.token = .operator fold) :
    readInfixed stop left .bar place (lexeme :: rest) = (do
      let seed ← readExpression stop Operator.bar.binding.2 rest
      return (.reduce (left.span.join seed.1.span) fold (place.join lexeme.span) left seed.1
        (signedReading stop fold (lexeme :: rest) seed.2), seed.2)) := by
  obtain ⟨token, span⟩ := lexeme
  obtain rfl : token = .operator fold := h
  rw [readInfixed, depthFor, List.length_cons, infixed]
  dsimp only
  rw [expression_eq_read (by omega), expression_eq_read (by rw [List.length_cons]; omega)]
  refine Outcome.bind_congr fun seed _ => ?_
  unfold signedReading
  cases sign? fold with
  | none => rfl
  | some sign =>
      cases readExpression stop Operator.bar.binding.2 (⟨.operator fold, span⟩ :: rest) with
      | error flaw => rfl
      | ok signed => rfl

/-- Any other operator takes an operand, and those that take a third one do so behind a tilde. -/
theorem readInfixed_operation
    (h : op = .bar → ∀ lexeme ∈ tokens.head?, ∀ fold, lexeme.token ≠ .operator fold) :
    readInfixed stop left op place tokens = (do
      let right ← readExpression stop op.binding.2 tokens
      if op.takesThird && nextIs .tilde right.2 then
        let third ← readExpression stop op.binding.2 (right.2.drop 1)
        return (.ternary (left.span.join third.1.span) op place left right.1 third.1, third.2)
      else return (.binary (left.span.join right.1.span) op place left right.1, right.2)) := by
  rw [readInfixed, depthFor, infixed]
  · rw [expression_eq_read (by omega)]
    refine Outcome.bind_congr fun right hright => ?_
    have behind : right.2.length ≤ tokens.length := expression_length_le hright
    have third := (List.drop_suffix 1 right.2).length_le
    dsimp only
    rw [expression_eq_read (by omega)]
  · rintro fold span rest rfl rfl
    exact h rfl _ rfl fold rfl

/-- A call is the whole body of a map. It is kept as it is. -/
theorem readEach_call {c : Call} (h : lexeme.token = .call c) :
    readEach stop left (lexeme :: rest) =
      .ok (.eachCall (left.span.join lexeme.span) left c, rest) := by
  obtain ⟨token, span⟩ := lexeme
  obtain rfl : token = .call c := h
  rfl

/-- Any other body is an expression that holds tightly. -/
theorem readEach_body (h : ∀ lexeme ∈ tokens.head?, lexeme.token.call? = none) :
    readEach stop left tokens = (do
      let body ← readExpression stop bodyPower tokens
      return (.each (left.span.join body.1.span) left body.1, body.2)) := by
  rw [readEach, depthFor, each]
  · rw [expression_eq_read (by omega)]
  · rintro c span rest rfl
    cases h _ rfl

/-! ## Collections -/

theorem readItems_close (h : nextIs .closeBracket tokens = true) :
    readItems stop tokens = .ok ([], tokens) := by
  rw [readItems, depthFor, items, if_pos h]
  rfl

/-- Items are separated by commas, and one may stand behind the last item. -/
theorem readItems_item (h : nextIs .closeBracket tokens = false) :
    readItems stop tokens = (do
      let item ← readExpression stop 0 tokens
      if nextIs .comma item.2 then
        let rest ← readItems stop (item.2.drop 1)
        return (item.1 :: rest.1, rest.2)
      else return ([item.1], item.2)) := by
  rw [readItems, depthFor, items, if_neg (by simp [h]), expression_eq_read (by omega)]
  refine Outcome.bind_congr fun item hitem => ?_
  have behind : item.2.length ≤ tokens.length := expression_length_le hitem
  dsimp only
  split
  · next comma =>
      have shorter := length_drop_of_nextIs comma
      rw [items_eq_read (by omega)]
  · rfl

theorem readEntries_close (h : nextIs .closeBrace tokens = true) :
    readEntries stop tokens = .ok ([], tokens) := by
  rw [readEntries, depthFor, entries, if_pos h]
  rfl

/-- Entries are separated like items, with a colon between key and value. -/
theorem readEntries_entry (h : nextIs .closeBrace tokens = false) :
    readEntries stop tokens = (do
      let key ← readExpression stop 0 tokens
      let colon ← expect stop .colon "':'" key.2
      let value ← readExpression stop 0 colon.2
      if nextIs .comma value.2 then
        let rest ← readEntries stop (value.2.drop 1)
        return ((key.1, value.1) :: rest.1, rest.2)
      else return ([(key.1, value.1)], value.2)) := by
  rw [readEntries, depthFor, entries, if_neg (by simp [h]), expression_eq_read (by omega)]
  refine Outcome.bind_congr fun key hkey => ?_
  have behindKey : key.2.length ≤ tokens.length := expression_length_le hkey
  refine Outcome.bind_congr fun colon hcolon => ?_
  have behindColon := expect_length_le hcolon
  dsimp only
  rw [expression_eq_read (by omega)]
  refine Outcome.bind_congr fun value hvalue => ?_
  have behindValue : value.2.length ≤ colon.2.length := expression_length_le hvalue
  split
  · next comma =>
      have shorter := length_drop_of_nextIs comma
      rw [entries_eq_read (by omega)]
  · rfl

/-! ## The whole -/

/-- An expression that is read from all tokens is the tree of the tokens. -/
theorem parse_of_read {whole : Span} {x : Expr} (some : tokens ≠ [])
    (h : readExpression whole.stop 0 tokens = .ok (x, [])) : parse tokens whole = .ok x := by
  rw [parse, if_neg (by simpa using some)]
  rw [readExpression] at h
  rw [h]
  rfl

/-- A tree is read from all tokens. -/
theorem read_of_parse {whole : Span} {x : Expr} (h : parse tokens whole = .ok x) :
    readExpression whole.stop 0 tokens = .ok (x, []) := by
  unfold parse at h
  split at h
  · cases h
  · obtain ⟨found, hfound, h⟩ := Outcome.bind_eq_ok.mp h
    obtain ⟨y, rest⟩ := found
    cases rest with
    | nil =>
        cases h
        exact hfound
    | cons extra rest =>
        dsimp only at h
        split at h
        · split at h <;> cases h
        · cases h

end Parser

end Fiction
