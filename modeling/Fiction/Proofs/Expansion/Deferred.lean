import Fiction.Proofs.Expr.Tiling

/-!
# Fiction.Proofs.Expansion.Deferred

**Deferred calls end.** A call behind `!` is kept as it is. For each element its text is cut into tokens,
expanded and parsed once more, and this comes to no more than making the call.

* `Lexer.tokens_source`: the text of a call has one token, which is the call.
* `evaluate_source`: so evaluating the text of a call is making the call.
* `evaluateWith_congr`: the value of a text depends on how deferred calls are run only for the calls among its
  tokens.
* `unrolledEvaluate` is the recursion cut off after a number of steps, and `unrolledEvaluate_eq` says that with
  more steps than the text has characters the cut is not reached.
* `evaluate_eq` is the recursion without a bound: deferred calls are made like all others.
-/

namespace Fiction.Expansion

variable {call deferred deferred' : Caller} {f : Fragment} {lexemes : List Lexeme}

/-! ## A text that is one call -/

/-- A call that stands alone is expanded, and the value of the whole is its value. -/
theorem evaluateWith_call {l : Lexeme} {c : Call} (alone : Lexer.tokens f = .ok [l])
    (token : l.token = .call c) : evaluateWith call deferred f = call c := by
  obtain ⟨_, span⟩ := l
  cases token
  have expanded : expandCalls call false [⟨.call c, span⟩] =
      call c >>= fun v => pure [⟨.value v, span⟩] := by
    simp [expandCalls]
  have value (v : Value) : Parser.parse [⟨.value v, span⟩] f.span = .ok (.literal span v) := rfl
  rw [evaluateWith, alone, ofFlaw, pure_bind, expanded, bind_assoc]
  simp only [pure_bind, value, ofFlaw, evalExpr, bind_pure]

/-- **Evaluating the text of a call is making the call**, for every call among the tokens of a text. -/
theorem evaluate_source (h : Lexer.tokens f = .ok lexemes) {l : Lexeme} (hl : l ∈ lexemes) {c : Call}
    (token : l.token = .call c) : evaluate call c.source = call c :=
  evaluateWith_call (Lexer.tokens_source h hl token).2 token

/-! ## What depends on deferred calls -/

/-- Lists run the deferred calls of their items. -/
theorem evalItems_congr {items : List Expr}
    (h : ∀ x ∈ items, evalExpr deferred x = evalExpr deferred' x) :
    evalItems deferred items = evalItems deferred' items := by
  induction items with
  | nil => rfl
  | cons x rest ih =>
      rw [evalItems, evalItems, h x List.mem_cons_self, ih fun y hy => h y (List.mem_cons_of_mem _ hy)]

theorem evalEntries_congr {entries : List (Expr × Expr)}
    (hkeys : ∀ entry ∈ entries, evalExpr deferred entry.1 = evalExpr deferred' entry.1)
    (hvalues : ∀ entry ∈ entries, evalExpr deferred entry.2 = evalExpr deferred' entry.2) :
    evalEntries deferred entries = evalEntries deferred' entries := by
  induction entries with
  | nil => rfl
  | cons entry rest ih =>
      have others := ih (fun y hy => hkeys y (List.mem_cons_of_mem _ hy))
        fun y hy => hvalues y (List.mem_cons_of_mem _ hy)
      rw [evalEntries, evalEntries, hkeys entry List.mem_cons_self, hvalues entry List.mem_cons_self, others]

/-- A tree runs no deferred calls but its own. -/
theorem evalExpr_congr {placed : Span → Prop} {e : Expr}
    (h : e.All (Token.All (fun c => deferred c = deferred' c) fun _ => True) placed) :
    evalExpr deferred e = evalExpr deferred' e := by
  induction h with
  | literal => rfl
  | lookup => rfl
  | list _ _ ih => rw [evalExpr, evalExpr, evalItems_congr ih]
  | mapping _ _ _ ihkeys ihvalues => rw [evalExpr, evalExpr, evalEntries_congr ihkeys ihvalues]
  | unary _ _ ih => rw [evalExpr, evalExpr, ih]
  | @binary _ op _ _ _ _ _ _ _ ihl ihr =>
      cases op
      all_goals simp only [evalExpr, ihl, ihr]
  | ternary _ _ _ _ _ ihl ihm ihr => rw [evalExpr, evalExpr, ihl, ihm, ihr]
  | index _ _ _ iht ihi => rw [evalExpr, evalExpr, iht, ihi]
  | @reduce _ _ _ _ _ signed _ _ _ _ _ ihl ihseed ihsigned =>
      rw [evalExpr, evalExpr, ihl, ihseed]
      cases signed with
      | none => rfl
      | some x =>
          dsimp only
          rw [ihsigned x rfl]
  | each _ _ _ ihc ihbody => rw [evalExpr, evalExpr, ihc, ihbody]
  | eachCall _ _ same ihc =>
      have body : deferred _ = deferred' _ := same
      rw [evalExpr, evalExpr, ihc, body]

/-- **The calls among the tokens of a text are all that it defers.** -/
theorem evaluateWith_congr
    (h : ∀ lexemes, Lexer.tokens f = .ok lexemes → ∀ l ∈ lexemes, ∀ c, l.token = .call c →
      deferred c = deferred' c) :
    evaluateWith call deferred f = evaluateWith call deferred' f := by
  apply ext_runIn
  intro s p
  unfold evaluateWith
  apply runIn_bind_congr
  intro lexemes q read
  apply runIn_bind_congr
  intro expanded r ran
  -- what is not a value was there before calls were expanded
  have tokens : ∀ l ∈ expanded,
      l.All (Token.All (fun c => deferred c = deferred' c) fun _ => True) fun _ => True := by
    intro l hl
    obtain ⟨token, span⟩ := l
    refine ⟨?_, trivial⟩
    cases token with
    | call c =>
        have before := mem_of_expanded (expanded_of_expandCalls false ran) hl nofun
        exact h lexemes (eq_ok_of_runIn_ofFlaw read) _ before c rfl
    | _ => trivial
  apply runIn_bind_congr
  intro e t parsed
  have tree := (Parser.parse_sound trivial trivial (fun _ _ => trivial) tokens).of_ok
    (eq_ok_of_runIn_ofFlaw parsed)
  rw [evalExpr_congr tree]

/-! ## The end of the recursion -/

/-- Evaluation with deferred calls unrolled a number of times; deeper ones are evaluated in an arbitrary way. -/
def unrolledEvaluate (call : Caller) (bottom : Fragment → Expansion Value) : Nat → Fragment → Expansion Value
  | 0, f => bottom f
  | n + 1, f => evaluateWith call (fun c => unrolledEvaluate call bottom n c.source) f

theorem nestedEvaluate_eq_unrolledEvaluate (n : Nat) :
    nestedEvaluate call n = unrolledEvaluate call (fun _ => pure .null) n := by
  induction n with
  | zero => rfl
  | succ n ih =>
      funext f
      rw [nestedEvaluate, unrolledEvaluate, ih]

/-- A text that has calls has characters, so there is a step left for the texts of its calls, and these are the
calls. -/
theorem unrolledEvaluate_eq_evaluateWith (bottom : Fragment → Expansion Value) {n : Nat}
    (h : f.chars.length < n) : unrolledEvaluate call bottom n f = evaluateWith call call f := by
  obtain ⟨n, rfl⟩ : ∃ k, n = k + 1 := ⟨n - 1, by omega⟩
  apply evaluateWith_congr
  intro lexemes read l hl c token
  have nonempty : f.chars.length ≠ 0 := by
    intro empty
    rw [Lexer.tokens, List.length_eq_zero_iff.mp empty] at read
    cases read
  obtain ⟨n, rfl⟩ : ∃ k, n = k + 1 := ⟨n - 1, by omega⟩
  exact evaluateWith_call (Lexer.tokens_source read hl token).2 token

/-- **Evaluation without a bound**: a text is cut into tokens, its calls are expanded, and the tree is computed,
where a deferred call is made like any other. -/
theorem evaluate_eq (f : Fragment) : evaluate call f = evaluateWith call call f := by
  rw [evaluate, nestedEvaluate_eq_unrolledEvaluate]
  exact unrolledEvaluate_eq_evaluateWith _ (Nat.lt_succ_self _)

/-- **Deferred calls end**: with more steps than characters the cut is not reached. -/
theorem unrolledEvaluate_eq (bottom : Fragment → Expansion Value) {n : Nat} (h : f.chars.length < n) :
    unrolledEvaluate call bottom n f = evaluate call f := by
  rw [evaluate_eq, unrolledEvaluate_eq_evaluateWith bottom h]

end Fiction.Expansion
