import Fiction.Proofs.Expr.Written

/-!
# Fiction.Proofs.Expr.Resume

**Operators can be read in two goes.** Whoever reads an expression stops in front of operators that hold
their left operand too loosely, and someone else goes on from there. Nothing is lost in between.

* `readStep` is what one operator adds to an expression. It does not depend on how tightly operators have
  to hold their left operand: that only decides whether the step is made.
* `readOperators_resume` reads the tight operators first and then the others.
* `behind_readOperators`: where reading stops does not depend on what was read before.

From these comes `behind_sign`: a sign in front of an expression does not change where it ends. So a
reduction whose operator can be a sign always has its second reading (`exists_signedReading`).
-/

namespace Fiction.Parser

variable {α β : Type} {stop least higher : Nat} {lexeme : Lexeme} {tokens rest : List Lexeme}

/-! ## One operator -/

/-- Reads one operator behind an expression, and its right operand. -/
def readStep (stop : Nat) (left : Expr) (lexeme : Lexeme) (rest : List Lexeme) :
    Except Flaw (Parsed Expr) :=
  match lexeme.token with
  | .mark .openBracket => do
      let index ← readExpression stop 0 rest
      let close ← expect stop .closeBracket "']'" index.2
      return (.index (left.span.join close.1) left index.1, close.2)
  | .mark .bang => readEach stop left rest
  | .operator op => readInfixed stop left op lexeme.span rest
  | _ => return (left, rest)

/-- The tokens that an expression goes on with. -/
theorem cases_of_goesOn {token : Token} (h : goesOn least token = true) :
    (token = .mark .openBracket ∧ least ≤ indexPower) ∨ (token = .mark .bang ∧ least ≤ eachPower) ∨
      ∃ op, token = .operator op ∧ least ≤ op.binding.1 := by
  unfold goesOn at h
  split at h
  · exact .inl ⟨rfl, of_decide_eq_true h⟩
  · exact .inr (.inl ⟨rfl, of_decide_eq_true h⟩)
  · exact .inr (.inr ⟨_, rfl, of_decide_eq_true h⟩)
  · cases h

theorem readOperators_step (left : Expr) (h : goesOn least lexeme.token = true) :
    readOperators stop least left (lexeme :: rest) =
      readStep stop left lexeme rest >>= fun whole => readOperators stop least whole.1 whole.2 := by
  unfold readStep
  rcases cases_of_goesOn h with ⟨token, tight⟩ | ⟨token, tight⟩ | ⟨op, token, tight⟩
  · rw [readOperators_index token tight, token]
    simp only [bind_assoc, pure_bind]
  · rw [readOperators_each token tight, token]
  · rw [readOperators_operator token tight, token]

theorem length_readStep {left : Expr} {whole : Parsed Expr}
    (h : readStep stop left lexeme rest = .ok whole) : whole.2.length ≤ rest.length := by
  unfold readStep at h
  split at h
  · obtain ⟨index, hindex, h⟩ := Outcome.bind_eq_ok.mp h
    obtain ⟨close, hclose, h⟩ := Outcome.bind_eq_ok.mp h
    cases h
    exact (expect_length_le hclose).trans (expression_length_le hindex)
  · exact ((takesAny stop _).each left.all_trivial (all_trivial rest)).length_le h
  · exact ((takesAny stop _).infixed left.all_trivial trivial (all_trivial rest)).length_le h
  · cases h
    exact Nat.le_refl _

theorem goesOn_of_le {token : Token} (h : least ≤ higher) (tight : goesOn higher token = true) :
    goesOn least token = true := by
  rcases cases_of_goesOn tight with ⟨rfl, bound⟩ | ⟨rfl, bound⟩ | ⟨op, rfl, bound⟩
  · exact decide_eq_true (h.trans bound)
  · exact decide_eq_true (h.trans bound)
  · exact decide_eq_true (h.trans bound)

/-- Either an expression ends here, or there is an operator to read. -/
theorem ends_or_goesOn (least : Nat) (tokens : List Lexeme) : Ends least tokens ∨
    ∃ lexeme rest, tokens = lexeme :: rest ∧ goesOn least lexeme.token = true := by
  cases tokens with
  | nil => exact .inl nofun
  | cons lexeme rest =>
      cases h : goesOn least lexeme.token with
      | true => exact .inr ⟨lexeme, rest, rfl, h⟩
      | false =>
          refine .inl ?_
          rintro _ ⟨⟩
          exact h

/-! ## Going on -/

/-- **Tight operators are read first, and the others behind them.** The induction is on the number of
tokens: a step that is made for the tight operators is made for all of them. -/
theorem readOperators_resume (h : least ≤ higher) (left : Expr) (tokens : List Lexeme) :
    readOperators stop least left tokens =
      readOperators stop higher left tokens >>= fun found => readOperators stop least found.1 found.2 := by
  induction hn : tokens.length using Nat.strong_induction_on generalizing left tokens with
  | _ n ih =>
      rcases ends_or_goesOn higher tokens with ends | ⟨lexeme, rest, rfl, tight⟩
      · have stopped : readOperators stop higher left tokens = .ok (left, tokens) :=
          readOperators_of_ends ends
        rw [stopped]
        rfl
      · rw [readOperators_step left (goesOn_of_le h tight), readOperators_step left tight, bind_assoc]
        refine Outcome.bind_congr fun whole hwhole => ?_
        have shorter := length_readStep hwhole
        exact ih whole.2.length (by rw [← hn, List.length_cons]; omega) whole.1 whole.2 rfl

theorem readExpression_resume (h : least ≤ higher) (tokens : List Lexeme) :
    readExpression stop least tokens =
      readExpression stop higher tokens >>= fun found => readOperators stop least found.1 found.2 := by
  rw [readExpression_eq, readExpression_eq, bind_assoc]
  exact Outcome.bind_congr fun found _ => readOperators_resume h found.1 found.2

/-! ## Where reading stops -/

/-- The tokens behind what was read, or why it could not be read. -/
def behind (read : Except Flaw (Parsed α)) : Except Flaw (List Lexeme) :=
  read.map Prod.snd

theorem behind_ok (read : Parsed α) : behind (.ok read) = .ok read.2 := rfl

/-- What reading goes on with decides where it stops, if it stops at the same place so far. -/
theorem behind_bind {x : Except Flaw (Parsed α)} {y : Except Flaw (Parsed β)}
    {f : Parsed α → Except Flaw (Parsed α)} {g : Parsed β → Except Flaw (Parsed β)}
    (h : behind x = behind y)
    (hf : ∀ a b rest, x = .ok (a, rest) → behind (f (a, rest)) = behind (g (b, rest))) :
    behind (x >>= f) = behind (y >>= g) := by
  cases x with
  | ok found =>
      cases y with
      | ok found' =>
          obtain ⟨a, rest⟩ := found
          obtain ⟨b, rest'⟩ := found'
          obtain rfl : rest = rest' := Except.ok.inj h
          exact hf a b rest rfl
      | error flaw => cases h
  | error flaw =>
      cases y with
      | ok found' => cases h
      | error flaw' => exact congrArg _ (Except.error.inj h)

/-- A successful reading that stops where another one does. -/
theorem exists_of_behind {x : Except Flaw (Parsed α)} {y : Except Flaw (Parsed β)} {found : Parsed β}
    (h : behind x = behind y) (hy : y = .ok found) : ∃ a, x = .ok (a, found.2) := by
  rw [hy, behind_ok] at h
  cases x with
  | ok read =>
      obtain ⟨a, rest⟩ := read
      obtain rfl : rest = found.2 := Except.ok.inj h
      exact ⟨a, rfl⟩
  | error flaw => cases h

theorem behind_readInfixed (left left' : Expr) (op : Operator) (place : Span) (tokens : List Lexeme) :
    behind (readInfixed stop left op place tokens) = behind (readInfixed stop left' op place tokens) := by
  unfold readInfixed depthFor infixed
  split
  · next fold span rest =>
      generalize (4 * List.length _ + 3) = n
      cases expression stop n Operator.bar.binding.2 rest with
      | ok seed => rfl
      | error flaw => rfl
  · cases expression stop (4 * tokens.length + 3) op.binding.2 tokens with
    | error flaw => rfl
    | ok right =>
        dsimp only [bind, Except.bind]
        split
        · cases expression stop (4 * tokens.length + 3) op.binding.2 (right.2.drop 1) with
          | ok third => rfl
          | error flaw => rfl
        · rfl

theorem behind_readEach (left left' : Expr) (tokens : List Lexeme) :
    behind (readEach stop left tokens) = behind (readEach stop left' tokens) := by
  unfold readEach depthFor each
  split
  · rfl
  · cases expression stop (4 * tokens.length + 3) bodyPower tokens with
    | ok body => rfl
    | error flaw => rfl

theorem behind_readStep (left left' : Expr) (lexeme : Lexeme) (rest : List Lexeme) :
    behind (readStep stop left lexeme rest) = behind (readStep stop left' lexeme rest) := by
  unfold readStep
  split
  · cases readExpression stop 0 rest with
    | error flaw => rfl
    | ok index =>
        dsimp only [bind, Except.bind]
        cases expect stop .closeBracket "']'" index.2 with
        | ok close => rfl
        | error flaw => rfl
  · exact behind_readEach left left' rest
  · exact behind_readInfixed left left' _ _ rest
  · rfl

/-- **Where operators end does not depend on what they are applied to.** -/
theorem behind_readOperators (left left' : Expr) (tokens : List Lexeme) :
    behind (readOperators stop least left tokens) = behind (readOperators stop least left' tokens) := by
  induction hn : tokens.length using Nat.strong_induction_on generalizing left left' tokens with
  | _ n ih =>
      rcases ends_or_goesOn least tokens with ends | ⟨lexeme, rest, rfl, tight⟩
      · rw [readOperators_of_ends ends, readOperators_of_ends ends, behind_ok, behind_ok]
      · rw [readOperators_step left tight, readOperators_step left' tight]
        refine behind_bind (behind_readStep left left' lexeme rest) fun whole whole' after hwhole => ?_
        have shorter : after.length ≤ rest.length := length_readStep hwhole
        exact ih after.length (by rw [← hn, List.length_cons]; omega) whole whole' after rfl

/-! ## Signs -/

/-- **A sign in front of an expression does not change where it ends.** The sign takes the tight operators,
and what is left is read behind it as it is without the sign. -/
theorem behind_sign {sign : Prefix} (h : lexeme.token = sign.token) (hleast : least ≤ sign.power)
    (rest : List Lexeme) :
    behind (readExpression stop least (lexeme :: rest)) = behind (readExpression stop least rest) := by
  rw [readExpression_eq, readOperand_sign h, bind_assoc, readExpression_resume hleast rest]
  refine behind_bind rfl fun x x' after _ => ?_
  exact behind_readOperators (.unary (lexeme.span.join x.span) sign x) x' after

/-- A sign holds its operand more tightly than `|`. -/
theorem bar_le_power {fold : Operator} {sign : Prefix} (h : sign? fold = some sign) :
    Operator.bar.binding.2 ≤ sign.power := by
  unfold sign? at h
  split at h <;> cases h <;> decide

/-- **The second reading of a reduction is never dropped.** Where the seed is read and the operator can be a
sign, reading from the sign on succeeds too and stops at the same token. -/
theorem exists_signedReading {fold : Operator} {sign : Prefix} {seed : Parsed Expr}
    (hsign : sign? fold = some sign) (hfold : lexeme.token = .operator fold)
    (h : readExpression stop Operator.bar.binding.2 rest = .ok seed) :
    ∃ x, readExpression stop Operator.bar.binding.2 (lexeme :: rest) = .ok (x, seed.2) ∧
      signedReading stop fold (lexeme :: rest) seed.2 = some x := by
  have token : lexeme.token = sign.token := hfold.trans (token_eq_of_sign? hsign)
  obtain ⟨x, hx⟩ := exists_of_behind (behind_sign token (bar_le_power hsign) rest) h
  refine ⟨x, hx, ?_⟩
  rw [signedReading, hsign, hx]
  exact if_pos rfl

end Fiction.Parser
