import Fiction.Proofs.Expr.Resume

/-!
# Fiction.Proofs.Expr.Enclosed

**An expression can stand in parentheses.** What the parser takes has as many closing parentheses as opening
ones, and it takes the same if a closing parenthesis follows.

* `parens` counts the parentheses that are open behind tokens.
* `Encloses` is what is known of something that was read: its parentheses are balanced, and it is read in
  the same way in front of a closing parenthesis. `EnclosesAll` states this for all functions of the parser
  at once. The induction is on three times the number of tokens, as each third call passes a token.
* `readOperand_enclosed` is the result: a whole expression, put in parentheses, is one operand.
-/

namespace Fiction.Parser

variable {α β : Type} {lexeme : Lexeme} {tokens rest more : List Lexeme}

/-! ## Parentheses -/

/-- The number of parentheses that are open behind tokens, if none is closed that was not opened. -/
def parens : Nat → List Lexeme → Option Nat
  | depth, [] => some depth
  | depth, lexeme :: rest =>
      match lexeme.token with
      | .mark .openParen => parens (depth + 1) rest
      | .mark .closeParen => if depth = 0 then none else parens (depth - 1) rest
      | _ => parens depth rest

/-- A token that is no parenthesis. -/
def Neutral (token : Token) : Prop :=
  token ≠ .mark .openParen ∧ token ≠ .mark .closeParen

theorem neutral_mark {mark : Mark} (h : mark ∉ [Mark.openParen, .closeParen]) : Neutral (.mark mark) := by
  constructor
  all_goals
    rintro ⟨⟩
    exact h (by decide)

theorem isMark_iff {token : Token} {mark : Mark} : token.isMark mark = true ↔ token = .mark mark := by
  cases token with
  | mark other =>
      rw [Token.isMark, beq_iff_eq, Token.mark.injEq]
      exact eq_comm
  | _ =>
      constructor
      all_goals
        intro same
        cases same

/-- A token for which both tests for a parenthesis fail. -/
theorem neutral_of_not_isMark {token : Token} (hopen : token.isMark .openParen = false)
    (hclose : token.isMark .closeParen = false) : Neutral token :=
  ⟨fun same => Bool.false_ne_true (hopen.symm.trans (isMark_iff.mpr same)),
    fun same => Bool.false_ne_true (hclose.symm.trans (isMark_iff.mpr same))⟩

theorem neutral_of_isMark {token : Token} {mark : Mark} (h : token.isMark mark = true)
    (hmark : mark ∉ [Mark.openParen, .closeParen]) : Neutral token := by
  rw [isMark_iff.mp h]
  exact neutral_mark hmark

theorem parens_neutral (h : Neutral lexeme.token) (depth : Nat) (rest : List Lexeme) :
    parens depth (lexeme :: rest) = parens depth rest := by
  rw [parens]
  split
  · next token => exact absurd token h.1
  · next token => exact absurd token h.2
  · rfl

theorem parens_open (h : lexeme.token = .mark .openParen) (depth : Nat) (rest : List Lexeme) :
    parens depth (lexeme :: rest) = parens (depth + 1) rest := by
  rw [parens, h]

theorem parens_close (h : lexeme.token = .mark .closeParen) (depth : Nat) (rest : List Lexeme) :
    parens (depth + 1) (lexeme :: rest) = parens depth rest := by
  rw [parens, h]
  exact if_neg (Nat.succ_ne_zero depth)

/-! ## In front of a closing parenthesis -/

/-- Nothing, or a closing parenthesis and whatever follows it. -/
def Shut (more : List Lexeme) : Prop :=
  ∀ lexeme ∈ more.head?, lexeme.token = .mark .closeParen

theorem Shut.closes (h : Shut more) : Closes more :=
  fun lexeme hlexeme => ⟨.closeParen, by decide, h lexeme hlexeme⟩

/-- The next token is the same, unless it is asked for the closing parenthesis. -/
theorem nextIs_append {mark : Mark} (h : Shut more) (hmark : mark ≠ .closeParen) (rest : List Lexeme) :
    nextIs mark (rest ++ more) = nextIs mark rest := by
  cases rest with
  | cons lexeme rest => rfl
  | nil =>
      cases more with
      | nil => rfl
      | cons lexeme more =>
          rw [List.nil_append, nextIs_of_token mark (h lexeme rfl)]
          exact beq_eq_false_iff_ne.mpr hmark

theorem exists_of_expect {stop : Nat} {mark : Mark} {what : String} {read : Parsed Span}
    (h : expect stop mark what tokens = .ok read) :
    ∃ lexeme, tokens = lexeme :: read.2 ∧ lexeme.token = .mark mark ∧ read.1 = lexeme.span := by
  unfold expect at h
  split at h
  · next lexeme rest =>
      split at h
      · next found =>
          cases h
          exact ⟨lexeme, rfl, isMark_iff.mp found, rfl⟩
      · cases h
  · split at h <;> cases h

/-! ## What is known of something that was read -/

/-- If something is read from tokens, then its parentheses are balanced, and it is read again in front of a
closing parenthesis. `again` is what is read with more tokens behind. -/
def Encloses (tokens : List Lexeme) (read : Except Flaw (Parsed α))
    (again : List Lexeme → Except Flaw (Parsed α)) : Prop :=
  ∀ a rest, read = .ok (a, rest) → (∀ depth, parens depth tokens = parens depth rest) ∧
    rest.length ≤ tokens.length ∧ ∀ more, Shut more → again more = .ok (a, rest ++ more)

namespace Encloses

variable {read : Except Flaw (Parsed α)} {again again' : List Lexeme → Except Flaw (Parsed α)}

theorem flaw (flaw : Flaw) : Encloses tokens (.error flaw) again :=
  fun _ _ h => by cases h

theorem done (a : α) (tokens : List Lexeme) :
    Encloses tokens (.ok (a, tokens)) fun more => .ok (a, tokens ++ more) := by
  intro _ _ h
  cases h
  exact ⟨fun _ => rfl, Nat.le_refl _, fun _ _ => rfl⟩

theorem congr (h : Encloses tokens read again) (same : ∀ more, Shut more → again' more = again more) :
    Encloses tokens read again' := by
  intro a rest hread
  obtain ⟨balanced, shorter, before⟩ := h a rest hread
  exact ⟨balanced, shorter, fun more hmore => (same more hmore).trans (before more hmore)⟩

/-- A token in front that is no parenthesis. -/
theorem skip (h : Encloses rest read again) (neutral : Neutral lexeme.token) :
    Encloses (lexeme :: rest) read again := by
  intro a after hread
  obtain ⟨balanced, shorter, before⟩ := h a after hread
  exact ⟨fun depth => (parens_neutral neutral depth rest).trans (balanced depth),
    Nat.le_succ_of_le shorter, before⟩

/-- Reading something else behind what was read. -/
theorem bind {f : Parsed α → Except Flaw (Parsed β)} {g : List Lexeme → Parsed α → Except Flaw (Parsed β)}
    (h : Encloses tokens read again)
    (hf : ∀ a rest, read = .ok (a, rest) → rest.length ≤ tokens.length →
      Encloses rest (f (a, rest)) fun more => g more (a, rest ++ more)) :
    Encloses tokens (read >>= f) fun more => again more >>= g more := by
  intro b after hread
  obtain ⟨⟨a, rest⟩, ha, hb⟩ := Outcome.bind_eq_ok.mp hread
  obtain ⟨balanced, shorter, before⟩ := h a rest ha
  obtain ⟨balanced', shorter', before'⟩ := hf a rest ha shorter b after hb
  refine ⟨fun depth => (balanced depth).trans (balanced' depth), shorter'.trans shorter, ?_⟩
  intro more hmore
  change again more >>= g more = _
  rw [before more hmore]
  exact before' more hmore

end Encloses

theorem expect_encloses {stop stop' : Nat} {what : String} (mark : Mark)
    (h : mark ∉ [Mark.openParen, .closeParen]) (tokens : List Lexeme) :
    Encloses tokens (expect stop mark what tokens) fun more =>
      expect stop' mark what (tokens ++ more) := by
  intro span rest found
  obtain ⟨lexeme, rfl, token, rfl⟩ := exists_of_expect found
  have neutral : Neutral lexeme.token := by
    rw [token]
    exact neutral_mark h
  exact ⟨fun depth => parens_neutral neutral depth rest, Nat.le_succ _, fun more _ => expect_of_token token⟩

/-- What the functions of the parser read from few tokens. -/
structure EnclosesAll (stop stop' n : Nat) : Prop where
  expression : ∀ tokens least, 3 * tokens.length + 2 ≤ n →
    Encloses tokens (readExpression stop least tokens) fun more =>
      readExpression stop' least (tokens ++ more)
  operators : ∀ tokens least left, 3 * tokens.length + 1 ≤ n →
    Encloses tokens (readOperators stop least left tokens) fun more =>
      readOperators stop' least left (tokens ++ more)
  operand : ∀ tokens, 3 * tokens.length + 1 ≤ n →
    Encloses tokens (readOperand stop tokens) fun more => readOperand stop' (tokens ++ more)
  infixed : ∀ tokens left op place, 3 * tokens.length + 3 ≤ n →
    Encloses tokens (readInfixed stop left op place tokens) fun more =>
      readInfixed stop' left op place (tokens ++ more)
  each : ∀ tokens left, 3 * tokens.length + 3 ≤ n →
    Encloses tokens (readEach stop left tokens) fun more => readEach stop' left (tokens ++ more)
  items : ∀ tokens, 3 * tokens.length + 3 ≤ n →
    Encloses tokens (readItems stop tokens) fun more => readItems stop' (tokens ++ more)
  entries : ∀ tokens, 3 * tokens.length + 3 ≤ n →
    Encloses tokens (readEntries stop tokens) fun more => readEntries stop' (tokens ++ more)

section

variable {stop stop' n : Nat} (ih : EnclosesAll stop stop' n)

include ih

theorem expression_encloses (least : Nat) (h : 3 * tokens.length + 2 ≤ n + 1) :
    Encloses tokens (readExpression stop least tokens) fun more =>
      readExpression stop' least (tokens ++ more) := by
  simp only [readExpression_eq]
  exact Encloses.bind (ih.operand tokens (by omega)) fun left rest _ _ => ih.operators rest least left (by omega)

theorem step_encloses (left : Expr) (lexeme : Lexeme) (h : 3 * rest.length + 3 ≤ n) :
    Encloses rest (readStep stop left lexeme rest) fun more =>
      readStep stop' left lexeme (rest ++ more) := by
  unfold readStep
  split
  · refine Encloses.bind (ih.expression rest 0 (by omega)) fun index after _ _ => ?_
    exact Encloses.bind (expect_encloses .closeBracket (by decide) after) fun close behind _ _ => .done _ _
  · exact ih.each rest left h
  · exact ih.infixed rest left _ _ h
  · exact .done _ _

theorem operators_encloses (least : Nat) (left : Expr) (h : 3 * tokens.length + 1 ≤ n + 1) :
    Encloses tokens (readOperators stop least left tokens) fun more =>
      readOperators stop' least left (tokens ++ more) := by
  rcases ends_or_goesOn least tokens with ends | ⟨lexeme, rest, rfl, tight⟩
  · rw [readOperators_of_ends ends]
    refine (Encloses.done left tokens).congr fun more hmore => readOperators_of_ends ?_
    cases tokens with
    | nil => exact hmore.closes.ends
    | cons lexeme rest => exact ends
  · have neutral : Neutral lexeme.token := by
      rcases cases_of_goesOn tight with ⟨token, _⟩ | ⟨token, _⟩ | ⟨op, token, _⟩
      all_goals rw [token]; exact neutral_of_not_isMark rfl rfl
    rw [List.length_cons] at h
    simp only [List.cons_append, readOperators_step left tight]
    refine Encloses.skip (Encloses.bind (step_encloses ih left lexeme (by omega)) ?_) neutral
    intro whole after _ _
    exact ih.operators after least whole (by omega)

/-- The parenthesis that is expected behind an expression closes the one in front of it. -/
theorem paren_encloses (token : lexeme.token = .mark .openParen) (h : 3 * rest.length + 2 ≤ n) :
    Encloses (lexeme :: rest) (readOperand stop (lexeme :: rest)) fun more =>
      readOperand stop' (lexeme :: (rest ++ more)) := by
  simp only [readOperand_paren token]
  intro x behind hread
  obtain ⟨⟨inner, after⟩, hinner, hread⟩ := Outcome.bind_eq_ok.mp hread
  obtain ⟨close, hclose, hread⟩ := Outcome.bind_eq_ok.mp hread
  obtain ⟨right, hafter, hright, hspan⟩ := exists_of_expect hclose
  cases hread
  obtain rfl : after = right :: close.2 := hafter
  obtain ⟨balanced, shorter, before⟩ := ih.expression rest 0 h inner _ hinner
  refine ⟨fun depth => ?_, ?_, fun more hmore => ?_⟩
  · rw [parens_open token, balanced, parens_close hright]
  · rw [List.length_cons] at shorter ⊢
    omega
  · have again : readExpression stop' 0 (rest ++ more) = _ := before more hmore
    dsimp only
    rw [again]
    dsimp only [bind, Except.bind]
    rw [List.cons_append, expect_of_token hright, hspan]
    rfl

theorem operand_encloses (h : 3 * tokens.length + 1 ≤ n + 1) :
    Encloses tokens (readOperand stop tokens) fun more => readOperand stop' (tokens ++ more) := by
  cases tokens with
  | nil => exact .flaw _
  | cons lexeme rest =>
      rw [List.length_cons] at h
      simp only [List.cons_append]
      rcases readOperand_cases lexeme with ⟨x, leaf⟩ | ⟨sign, token⟩ | token | token | token | ⟨flaw, -, h⟩
      · have neutral : Neutral lexeme.token := by
          constructor
          all_goals
            intro token
            rw [Lexeme.leaf?, token] at leaf
            cases leaf
        simp only [readOperand_leaf leaf]
        exact (Encloses.done x rest).skip neutral
      · have neutral : Neutral lexeme.token := by
          rw [token]
          cases sign <;> exact neutral_of_not_isMark rfl rfl
        simp only [readOperand_sign token]
        refine Encloses.skip ?_ neutral
        exact Encloses.bind (ih.expression rest _ (by omega)) fun x after _ _ => .done _ _
      · exact paren_encloses ih token (by omega)
      · simp only [readOperand_list token]
        refine Encloses.skip ?_ (by rw [token]; exact neutral_of_not_isMark rfl rfl)
        refine Encloses.bind (ih.items rest (by omega)) fun items after _ _ => ?_
        exact Encloses.bind (expect_encloses .closeBracket (by decide) after) fun close behind _ _ => .done _ _
      · simp only [readOperand_mapping token]
        refine Encloses.skip ?_ (by rw [token]; exact neutral_of_not_isMark rfl rfl)
        refine Encloses.bind (ih.entries rest (by omega)) fun entries after _ _ => ?_
        exact Encloses.bind (expect_encloses .closeBrace (by decide) after) fun close behind _ _ => .done _ _
      · rw [h]
        exact .flaw _

/-- The second reading of a reduction is the same in front of a closing parenthesis. -/
theorem signedReading_append {fold : Operator} {seed : Expr} {after : List Lexeme}
    (hfold : lexeme.token = .operator fold) (h : 3 * (lexeme :: rest).length + 2 ≤ n)
    (hseed : readExpression stop Operator.bar.binding.2 rest = .ok (seed, after)) (hmore : Shut more) :
    signedReading stop' fold (lexeme :: rest ++ more) (after ++ more) =
      signedReading stop fold (lexeme :: rest) after := by
  cases hsign : sign? fold with
  | none => rw [signedReading, signedReading, hsign, Option.bind_none, Option.bind_none]
  | some sign =>
      obtain ⟨x, hx, signed⟩ := exists_signedReading hsign hfold hseed
      have again : readExpression stop' Operator.bar.binding.2 (lexeme :: rest ++ more) = _ :=
        (ih.expression _ _ h x after hx).2.2 more hmore
      rw [signed, signedReading, hsign, again]
      exact if_pos rfl

theorem infixed_encloses (left : Expr) (op : Operator) (place : Span) (h : 3 * tokens.length + 3 ≤ n + 1) :
    Encloses tokens (readInfixed stop left op place tokens) fun more =>
      readInfixed stop' left op place (tokens ++ more) := by
  by_cases reduces : ∃ lexeme rest fold, op = .bar ∧ tokens = lexeme :: rest ∧
      lexeme.token = .operator fold
  · obtain ⟨lexeme, rest, fold, rfl, rfl, token⟩ := reduces
    have bound := h
    rw [List.length_cons] at h
    simp only [List.cons_append, readInfixed_reduce token]
    refine Encloses.skip ?_ (by rw [token]; exact neutral_of_not_isMark rfl rfl)
    refine Encloses.bind (ih.expression rest _ (by omega)) fun seed after hseed _ => ?_
    refine (Encloses.done _ after).congr fun more hmore => ?_
    have same := signedReading_append ih token (by omega) hseed hmore
    rw [List.cons_append] at same
    rw [same]
    rfl
  · have operation {ts : List Lexeme} (some : ∀ l ∈ ts.head?, ∀ fold, l.token = .operator fold →
        l ∈ tokens.head?) : op = .bar → ∀ l ∈ ts.head?, ∀ fold, l.token ≠ .operator fold := by
      rintro rfl l hl fold token
      obtain ⟨rest, rfl⟩ := List.head?_eq_some_iff.mp (some l hl fold token)
      exact reduces ⟨l, rest, fold, rfl, rfl, token⟩
    rw [readInfixed_operation (operation fun l hl _ _ => hl)]
    refine Encloses.congr ?_ fun more hmore => readInfixed_operation (operation fun l hl fold token => ?_)
    · refine Encloses.bind (ih.expression tokens _ (by omega)) fun right after _ shorter => ?_
      cases after with
      | nil =>
          have two : (op.takesThird && nextIs .tilde []) = false := Bool.and_false _
          dsimp only
          rw [two, if_neg Bool.false_ne_true]
          refine Encloses.congr (.done _ []) fun more hmore => ?_
          rw [nextIs_append hmore (by decide), two, if_neg Bool.false_ne_true]
          rfl
      | cons next after =>
          rw [List.length_cons] at shorter
          simp only [List.cons_append, nextIs, List.drop_succ_cons, List.drop_zero]
          by_cases third : (op.takesThird && next.token.isMark .tilde) = true
          · simp only [if_pos third]
            refine Encloses.skip (Encloses.bind (ih.expression after _ (by omega)) fun third behind _ _ =>
              .done _ _) ?_
            exact neutral_of_isMark (Bool.and_eq_true_iff.mp third).2 (by decide)
          · simp only [if_neg third]
            exact .done _ _
    · cases tokens with
      | cons lexeme rest => exact hl
      | nil => rw [hmore l hl] at token; cases token

theorem each_encloses (left : Expr) (h : 3 * tokens.length + 3 ≤ n + 1) :
    Encloses tokens (readEach stop left tokens) fun more => readEach stop' left (tokens ++ more) := by
  have body (some : ∀ l ∈ tokens.head?, l.token.call? = none) :
      Encloses tokens (readEach stop left tokens) fun more => readEach stop' left (tokens ++ more) := by
    rw [readEach_body some]
    refine Encloses.congr (Encloses.bind (ih.expression tokens _ (by omega)) fun body after _ _ =>
      .done _ _) fun more hmore => readEach_body fun l hl => ?_
    cases tokens with
    | cons lexeme rest => exact some l hl
    | nil => rw [hmore l hl]; rfl
  cases tokens with
  | nil => exact body nofun
  | cons lexeme rest =>
      obtain ⟨token, span⟩ := lexeme
      cases token with
      | call c => exact Encloses.skip (.done _ rest) (neutral_of_not_isMark rfl rfl)
      | _ => exact body (by rintro _ ⟨⟩; rfl)

theorem items_encloses (h : 3 * tokens.length + 3 ≤ n + 1) :
    Encloses tokens (readItems stop tokens) fun more => readItems stop' (tokens ++ more) := by
  cases close : nextIs .closeBracket tokens with
  | true =>
      rw [readItems_close close]
      refine Encloses.congr (.done [] tokens) fun more hmore => readItems_close ?_
      rw [nextIs_append hmore (by decide), close]
  | false =>
      rw [readItems_item close]
      refine Encloses.congr ?_ fun more hmore => readItems_item (by
        rw [nextIs_append hmore (by decide), close])
      refine Encloses.bind (ih.expression tokens 0 (by omega)) fun item after _ shorter => ?_
      cases after with
      | nil =>
          refine Encloses.congr (.done _ []) fun more hmore => ?_
          dsimp only
          rw [nextIs_append hmore (by decide)]
          rfl
      | cons next after =>
          rw [List.length_cons] at shorter
          simp only [List.cons_append, nextIs, List.drop_succ_cons, List.drop_zero]
          by_cases comma : next.token.isMark .comma = true
          · simp only [if_pos comma]
            refine Encloses.skip (Encloses.bind (ih.items after (by omega)) fun others behind _ _ =>
              .done _ _) (neutral_of_isMark comma (by decide))
          · simp only [if_neg comma]
            exact .done _ _

theorem entries_encloses (h : 3 * tokens.length + 3 ≤ n + 1) :
    Encloses tokens (readEntries stop tokens) fun more => readEntries stop' (tokens ++ more) := by
  cases close : nextIs .closeBrace tokens with
  | true =>
      rw [readEntries_close close]
      refine Encloses.congr (.done [] tokens) fun more hmore => readEntries_close ?_
      rw [nextIs_append hmore (by decide), close]
  | false =>
      rw [readEntries_entry close]
      refine Encloses.congr ?_ fun more hmore => readEntries_entry (by
        rw [nextIs_append hmore (by decide), close])
      refine Encloses.bind (ih.expression tokens 0 (by omega)) fun key afterKey _ shorter => ?_
      refine Encloses.bind (expect_encloses .colon (by decide) afterKey) fun colon afterColon _ shorter => ?_
      refine Encloses.bind (ih.expression afterColon 0 (by omega)) fun value after _ shorter => ?_
      cases after with
      | nil =>
          refine Encloses.congr (.done _ []) fun more hmore => ?_
          dsimp only
          rw [nextIs_append hmore (by decide)]
          rfl
      | cons next after =>
          rw [List.length_cons] at shorter
          simp only [List.cons_append, nextIs, List.drop_succ_cons, List.drop_zero]
          by_cases comma : next.token.isMark .comma = true
          · simp only [if_pos comma]
            refine Encloses.skip (Encloses.bind (ih.entries after (by omega)) fun others behind _ _ =>
              .done _ _) (neutral_of_isMark comma (by decide))
          · simp only [if_neg comma]
            exact .done _ _

end

theorem enclosesAll (stop stop' : Nat) : ∀ n, EnclosesAll stop stop' n
  | 0 => by
      constructor <;> intros <;> omega
  | n + 1 =>
      have ih := enclosesAll stop stop' n
      { expression := fun _ least h => expression_encloses ih least h
        operators := fun _ least left h => operators_encloses ih least left h
        operand := fun _ h => operand_encloses ih h
        infixed := fun _ left op place h => infixed_encloses ih left op place h
        each := fun _ left h => each_encloses ih left h
        items := fun _ h => items_encloses ih h
        entries := fun _ h => entries_encloses ih h }

/-- An expression that takes all its tokens has balanced parentheses. -/
theorem parens_of_readExpression {stop least : Nat} {x : Expr}
    (h : readExpression stop least tokens = .ok (x, [])) (depth : Nat) :
    parens depth tokens = some depth :=
  ((enclosesAll stop stop _).expression tokens least (Nat.le_refl _) x [] h).1 depth

/-- Where the text ends matters only to flaws. -/
theorem readExpression_everywhere {stop least : Nat} {x : Expr}
    (h : readExpression stop least tokens = .ok (x, [])) (stop' : Nat) :
    readExpression stop' least tokens = .ok (x, []) := by
  have again : readExpression stop' least (tokens ++ []) = _ :=
    ((enclosesAll stop stop' _).expression tokens least (Nat.le_refl _) x [] h).2.2 [] nofun
  rwa [List.append_nil] at again

/-- **An expression in parentheses is one operand**, wherever it stood before. -/
theorem readOperand_enclosed {stop stop' : Nat} {x : Expr} {left right : Lexeme}
    (h : readExpression stop 0 tokens = .ok (x, [])) (hleft : left.token = .mark .openParen)
    (hright : right.token = .mark .closeParen) (rest : List Lexeme) :
    readOperand stop' (left :: tokens ++ right :: rest) =
      .ok (x.withSpan (left.span.join right.span), rest) := by
  have shut : Shut (right :: rest) := by
    rintro _ ⟨⟩
    exact hright
  have inner : readExpression stop' 0 (tokens ++ right :: rest) = _ :=
    ((enclosesAll stop stop' _).expression tokens 0 (Nat.le_refl _) x [] h).2.2 _ shut
  rw [List.cons_append, readOperand_paren hleft, inner]
  dsimp only [bind, Except.bind]
  rw [List.nil_append, expect_of_token hright]
  rfl

end Fiction.Parser
