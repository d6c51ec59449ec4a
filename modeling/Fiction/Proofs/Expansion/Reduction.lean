import Fiction.Proofs.Expansion.Keeps
import Fiction.Proofs.Expr.Grammar

/-!
# Fiction.Proofs.Expansion.Reduction

**A reduction with a sign always has both readings.** Behind `|`, a `+` or `-` is the operator of a fold or
the sign of the right side, and it depends on the value of the left side which of them is meant.

* `readings_iff`: the right side can be read with the sign if it can be read without, and both end at the
  same token. This comes from `Parser.behind_sign`.
* `infixed_signed`: so the parser keeps the second reading.
* `carriesAll_of_parse`: every reduction with a sign in a parsed tree has its second reading, by induction over
  the rules of the grammar.
* `runIn_reduce_of_signed`: where there is a second reading, and the left side is not a list, the reduction
  is `|` between the left side and that reading.
-/

namespace Fiction

namespace Parser

variable {stop n : Nat} {fold : Operator} {lexeme : Lexeme} {tokens rest after : List Lexeme}

/-! ## The two readings -/

/-- **The two readings of a right side end at the same token.** -/
theorem readings_iff (hsign : (sign? fold).isSome = true) (hfold : lexeme.token = .operator fold)
    (room : 3 * (lexeme :: rest).length + 3 ≤ n) :
    (∃ x, expression stop n Operator.bar.binding.2 (lexeme :: rest) = .ok (x, after)) ↔
      ∃ seed, expression stop n Operator.bar.binding.2 rest = .ok (seed, after) := by
  obtain ⟨sign, hsign⟩ := Option.isSome_iff_exists.mp hsign
  have token : lexeme.token = sign.token := hfold.trans (token_eq_of_sign? hsign)
  have ends : behind (readExpression stop _ (lexeme :: rest)) = behind (readExpression stop _ rest) :=
    behind_sign token (bar_le_power hsign) rest
  rw [List.length_cons] at room
  rw [expression_eq_read (by rw [List.length_cons]; omega), expression_eq_read (by omega)]
  constructor
  · rintro ⟨x, hx⟩
    exact exists_of_behind ends.symm hx
  · rintro ⟨seed, hseed⟩
    exact exists_of_behind ends hseed

/-- **The parser keeps the second reading.** -/
theorem infixed_signed {seed : Expr} (hsign : (sign? fold).isSome = true)
    (hfold : lexeme.token = .operator fold) (room : 3 * (lexeme :: rest).length + 3 ≤ n)
    (hseed : expression stop n Operator.bar.binding.2 rest = .ok (seed, after)) (left : Expr)
    (place : Span) :
    ∃ x, expression stop n Operator.bar.binding.2 (lexeme :: rest) = .ok (x, after) ∧
      infixed stop (n + 1) left .bar place (lexeme :: rest) =
        .ok (.reduce (left.span.join seed.span) fold (place.join lexeme.span) left seed (some x),
          after) := by
  obtain ⟨sign, hsign⟩ := Option.isSome_iff_exists.mp hsign
  rw [List.length_cons] at room
  rw [expression_eq_read (by omega)] at hseed
  obtain ⟨x, hx, kept⟩ := exists_signedReading hsign hfold hseed
  refine ⟨x, ?_, ?_⟩
  · rwa [expression_eq_read (by rw [List.length_cons]; omega)]
  · rw [infixed_eq_read (by rw [List.length_cons]; omega), readInfixed_reduce hfold, hseed]
    show Except.ok (_, _) = _
    rw [kept]

end Parser

/-! ## Trees -/

namespace Expr

/-- A reduction has a second reading exactly if its operator can be a sign. -/
def Carries : Expr → Prop
  | reduce _ op _ _ _ signed => signed.isSome = (Parser.sign? op).isSome
  | _ => True

/-- All reductions of a tree have their readings. -/
def CarriesAll (e : Expr) : Prop :=
  ∀ node, NodeOf node e → node.Carries

theorem CarriesAll.of_children {e : Expr} (top : e.Carries)
    (children : ∀ child ∈ e.children, child.CarriesAll) : e.CarriesAll :=
  forall_nodeOf_iff.mpr ⟨top, children⟩

theorem CarriesAll.withSpan {e : Expr} (h : e.CarriesAll) (s : Span) : (e.withSpan s).CarriesAll := by
  obtain ⟨top, below⟩ := forall_nodeOf_iff.mp h
  refine .of_children ?_ ?_
  · cases e <;> exact top
  · rwa [children_withSpan]

end Expr

namespace Parser

/-- All reductions of a phrase have their readings. -/
def Phrase.CarriesAll : Phrase → Prop
  | .expression e => e.CarriesAll
  | .items es => ∀ e ∈ es, e.CarriesAll
  | .entries es => ∀ e ∈ es.flatMap fun entry => [entry.1, entry.2], e.CarriesAll

theorem carriesAll_of_spells {tokens : List Lexeme} {phrase : Phrase} (h : Spells tokens phrase) :
    phrase.CarriesAll := by
  induction h with
  | leaf leaf =>
      obtain ⟨v, rfl⟩ | ⟨path, rfl⟩ := Lexeme.cases_of_leaf? leaf
      · exact .of_children trivial nofun
      · exact .of_children trivial nofun
  | sign _ _ ih => exact .of_children trivial (List.forall_mem_singleton.mpr ih)
  | paren _ _ _ ih => exact ih.withSpan _
  | list _ _ _ ih => exact .of_children trivial ih
  | mapping _ _ _ ih => exact .of_children trivial ih
  | index _ _ _ _ ihTarget ihIndex =>
      exact .of_children trivial (List.forall_mem_cons.mpr ⟨ihTarget, List.forall_mem_singleton.mpr ihIndex⟩)
  | each _ _ _ ihCollection ihBody =>
      exact .of_children trivial
        (List.forall_mem_cons.mpr ⟨ihCollection, List.forall_mem_singleton.mpr ihBody⟩)
  | eachCall _ _ _ ih => exact .of_children trivial (List.forall_mem_singleton.mpr ih)
  | reduce _ _ _ _ both _ ihLeft ihSeed ihSigned =>
      refine .of_children both (List.forall_mem_cons.mpr ⟨ihLeft, List.forall_mem_cons.mpr ⟨ihSeed, ?_⟩⟩)
      exact fun x hx => ihSigned x (Option.mem_toList.mp hx)
  | binary _ _ _ ihLeft ihRight =>
      exact .of_children trivial (List.forall_mem_cons.mpr ⟨ihLeft, List.forall_mem_singleton.mpr ihRight⟩)
  | ternary _ _ _ _ _ ihLeft ihMiddle ihRight =>
      exact .of_children trivial (List.forall_mem_cons.mpr ⟨ihLeft,
        List.forall_mem_cons.mpr ⟨ihMiddle, List.forall_mem_singleton.mpr ihRight⟩⟩)
  | noItems => exact nofun
  | lastItem _ ih => exact List.forall_mem_singleton.mpr ih
  | item _ _ _ ihItem ihItems => exact List.forall_mem_cons.mpr ⟨ihItem, ihItems⟩
  | noEntries => exact nofun
  | lastEntry _ _ _ ihKey ihValue =>
      exact List.forall_mem_cons.mpr ⟨ihKey, List.forall_mem_singleton.mpr ihValue⟩
  | entry _ _ _ _ _ ihKey ihValue ihEntries =>
      exact List.forall_mem_cons.mpr ⟨ihKey, List.forall_mem_cons.mpr ⟨ihValue, ihEntries⟩⟩

/-- **Every reduction of a parsed tree has its readings.** -/
theorem carriesAll_of_parse {tokens : List Lexeme} {whole : Span} {e : Expr}
    (h : parse tokens whole = .ok e) : e.CarriesAll :=
  carriesAll_of_spells (spells_of_parse h)

end Parser

/-! ## Values -/

/-- `|` complains of itself, and not of a reduction. -/
theorem Operator.bar_apply_ne_mismatch (op : Operator) (a b : Value) (kinds : List Kind) :
    Operator.bar.apply a b ≠ .error (.mismatch s!"| {op.symbol}" kinds) := by
  intro h
  change Operator.unite a b = _ at h
  unfold Operator.unite at h
  split at h
  · cases h
  · cases h
  · cases h
  · rw [Fiction.mismatch] at h
    injection h with cause
    injection cause with operation
    revert operation
    cases op <;> decide

namespace Expansion

variable {s : Setting} {p q : Progress} {call : Caller}

/-- With a second reading, a reduction of something other than a list is `|` with that reading. -/
theorem runIn_reduce_of_signed {span place : Span} {op : Operator} {l seed x : Expr} {folded : Value}
    (hl : (evalExpr call l).runIn s p = (.ok folded, q)) (other : ∀ items, folded ≠ .list items) :
    (evalExpr call (.reduce span op place l seed (some x))).runIn s p =
      (evalExpr call x >>= fun right => ofOutcome place (Operator.bar.apply folded right)).runIn s q := by
  rw [evalExpr, runIn_bind, hl]
  cases folded with
  | list items => exact absurd rfl (other items)
  | _ => rfl

end Expansion

/-- **A reduction with a sign always has both readings.** Behind `|`, where the operator `+` or `-` comes next
and the recursion is deep enough for the tokens:

* the right side can be read from the sign on exactly if it can be read from behind the sign, and both readings
  end at the same token;
* the parser then makes a reduction with both.

So a reduction with a sign in a tree that was parsed has its second reading. If its left side turns out not to
be a list, the value is that of `|` with the second reading, and the complaint about a reduction is not made. -/
theorem reduction_reads_twice (fold : Operator) (hfold : fold = .plus ∨ fold = .minus) :
    (∀ {stop n : Nat} {lexeme : Lexeme} {rest : List Lexeme}, lexeme.token = .operator fold →
      3 * (lexeme :: rest).length + 3 ≤ n → ∀ after,
        ((∃ x, Parser.expression stop n Operator.bar.binding.2 (lexeme :: rest) = .ok (x, after)) ↔
          ∃ seed, Parser.expression stop n Operator.bar.binding.2 rest = .ok (seed, after)) ∧
        ∀ seed left place, Parser.expression stop n Operator.bar.binding.2 rest = .ok (seed, after) →
          ∃ x, Parser.expression stop n Operator.bar.binding.2 (lexeme :: rest) = .ok (x, after) ∧
            Parser.infixed stop (n + 1) left .bar place (lexeme :: rest) =
              .ok (.reduce (left.span.join seed.span) fold (place.join lexeme.span) left seed (some x),
                after)) ∧
    ∀ {tokens : List Lexeme} {whole : Span} {e : Expr}, Parser.parse tokens whole = .ok e →
      ∀ {span place : Span} {l seed : Expr} {signed : Option Expr},
        Expr.NodeOf (.reduce span fold place l seed signed) e →
        ∃ x, signed = some x ∧
          ∀ (call : Expansion.Caller) (s : Setting) (p q : Progress) (folded : Value),
            (Expansion.evalExpr call l).runIn s p = (.ok folded, q) → (∀ items, folded ≠ .list items) →
            (Expansion.evalExpr call (.reduce span fold place l seed signed)).runIn s p =
              (Expansion.evalExpr call x >>= fun right =>
                Expansion.ofOutcome place (Operator.bar.apply folded right)).runIn s q ∧
            ∀ right kinds, Operator.bar.apply folded right ≠
              .error (.mismatch s!"| {fold.symbol}" kinds) := by
  have hsign : (Parser.sign? fold).isSome = true := by
    rcases hfold with rfl | rfl <;> rfl
  refine ⟨fun token room after => ⟨Parser.readings_iff hsign token room, ?_⟩, ?_⟩
  · intro seed left place hseed
    exact Parser.infixed_signed hsign token room hseed left place
  · intro tokens whole e parsed span place l seed signed hnode
    have carries : signed.isSome = (Parser.sign? fold).isSome :=
      Parser.carriesAll_of_parse parsed _ hnode
    obtain ⟨x, rfl⟩ := Option.isSome_iff_exists.mp (carries.trans hsign)
    refine ⟨x, rfl, fun call s p q folded hl other => ?_⟩
    exact ⟨Expansion.runIn_reduce_of_signed hl other, Operator.bar_apply_ne_mismatch fold folded⟩

/-- `5 | -3 * 2` -/
def signedUnion : List Lexeme :=
  [⟨.value (.int 5), ⟨0, 1⟩⟩, ⟨.operator .bar, ⟨2, 3⟩⟩, ⟨.operator .minus, ⟨4, 5⟩⟩,
    ⟨.value (.int 3), ⟨5, 6⟩⟩, ⟨.operator .times, ⟨7, 8⟩⟩, ⟨.value (.int 2), ⟨9, 10⟩⟩]

/-- The tree of `signedUnion`: a fold with `-` and the seed `3 * 2`, or else `|` and `-3 * 2`. -/
def signedTree : Expr :=
  .reduce ⟨0, 10⟩ .minus ⟨2, 5⟩ (.literal ⟨0, 1⟩ (.int 5))
    (.binary ⟨5, 10⟩ .times ⟨7, 8⟩ (.literal ⟨5, 6⟩ (.int 3)) (.literal ⟨9, 10⟩ (.int 2)))
    (some (.binary ⟨4, 10⟩ .times ⟨7, 8⟩ (.unary ⟨4, 6⟩ .negate (.literal ⟨5, 6⟩ (.int 3)))
      (.literal ⟨9, 10⟩ (.int 2))))

theorem signedTree_value : Parser.parse signedUnion ⟨0, 10⟩ = .ok signedTree ∧
    (∃ seed, Parser.expression 10 18 Operator.bar.binding.2 (signedUnion.drop 3) = .ok (seed, [])) ∧
    (∃ x, Parser.expression 10 18 Operator.bar.binding.2 (signedUnion.drop 2) = .ok (x, [])) ∧
    ∀ call s p, (Expansion.evalExpr call signedTree).runIn s p = (.ok (.int (-1)), p) := by
  have parsed : Parser.parse signedUnion ⟨0, 10⟩ = .ok signedTree := rfl
  have seed : ∃ seed,
      Parser.expression 10 18 Operator.bar.binding.2 (signedUnion.drop 3) = .ok (seed, []) := ⟨_, rfl⟩
  obtain ⟨readings, trees⟩ := reduction_reads_twice .minus (.inr rfl)
  refine ⟨parsed, seed, (readings rfl (by decide) []).1.mpr seed, fun call s p => ?_⟩
  obtain ⟨x, signed, value⟩ := trees parsed (.top _)
  cases signed
  rw [signedTree, (value call s p p (.int 5) rfl nofun).1]
  rfl

end Fiction
