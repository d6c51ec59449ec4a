import Fiction.Proofs.Expansion.Commands
import Fiction.Proofs.Expansion.SameAnswer
import Fiction.Proofs.Expr.Plain

/-!
# Fiction.Proofs.Expansion.Maps

**The two spellings of the body of a map agree.** The body behind `!` can be a call of `eval`, which is kept as
it is and whose text is evaluated for each element, or an expression in parentheses, which is parsed once.

* `evaluate_source` and `evaluate_eq`: evaluating the text of the call is making the call.
* `sameAnswer_evalAt`: the call gives the same answer as the tree of its argument. What it is given is cut into
  tokens and parsed again, one level deeper, but none of this shows.
* `sameAnswer_maps`: the parser makes the same of both spellings, up to the bodies, by `Parser.parse_fork`.
* `sameShape_of_mapEach`: what a map gives has as many elements as the list, or the keys of the mapping.
-/

namespace Fiction

/-- A list of the same length, or a mapping with the same keys in the same order. -/
def Value.SameShape : Value → Value → Prop
  | .list items, .list results => results.length = items.length
  | .mapping entries, .mapping results => results.map Prod.fst = entries.map Prod.fst
  | _, _ => False

namespace Expansion

variable {s : Setting} {call call' : Caller}

/-! ## The body of a map -/

/-- The tree of an expression whose calls are left as they are. -/
def treeOf (f : Fragment) : Except Flaw Expr :=
  Lexer.tokens f >>= fun lexemes => Parser.parse lexemes f.span

theorem treeOf_eq {f : Fragment} {lexemes : List Lexeme} (tokens : Lexer.tokens f = .ok lexemes) :
    treeOf f = Parser.parse lexemes f.span := by
  rw [treeOf, tokens]
  rfl

/-- Where no call is expanded the value is that of the tree. -/
theorem runIn_evaluate_treeOf {f : Fragment} {lexemes : List Lexeme} {p : Progress}
    (tokens : Lexer.tokens f = .ok lexemes)
    (kept : (expandCalls call false lexemes).runIn s p = (.ok lexemes, p)) :
    (evaluate call f).runIn s p = (ofFlaw (treeOf f) >>= evalExpr call).runIn s p := by
  rw [evaluate_eq, evaluateWith, treeOf_eq tokens, tokens, runIn_bind, ofFlaw, runIn_pure]
  dsimp only
  rw [runIn_bind, kept]

theorem runIn_expandCalls_plain {lexemes : List Lexeme} (h : ∀ l ∈ lexemes, l.token.call? = none)
    (p : Progress) : (expandCalls call false lexemes).runIn s p = (.ok lexemes, p) :=
  runIn_expandCalls_of_plain (List.forall_mem_map.mpr h)

theorem runIn_evaluate_of_treeOf {f : Fragment} {lexemes : List Lexeme} {x : Expr} {p : Progress}
    (tokens : Lexer.tokens f = .ok lexemes) (plain : ∀ l ∈ lexemes, l.token.call? = none)
    (tree : treeOf f = .ok x) : (evaluate call f).runIn s p = (evalExpr call x).runIn s p := by
  rw [runIn_evaluate_treeOf tokens (runIn_expandCalls_plain plain p), tree, ofFlaw, pure_bind]

section

variable {cs : List Char} {lexemes : List Lexeme} {x : Expr} (h : ReadsAs cs lexemes x)

include h

/-- The call gives the same answer as the tree of its argument, wherever that tree comes from. -/
theorem sameAnswer_evalAt (undivided : Markup.Undivided cs)
    (room offset other : Nat) (call : Caller) (span : Span) :
    SameAnswer s (callWith (room + 1) (Lexer.evalAt offset cs))
      (evalExpr call ((x.shift other).withSpan span)) := by
  have visible : Text.isEmptyText (' ' :: cs) = false := by
    rw [Text.isEmptyText, List.all_cons, Bool.and_eq_false_iff]
    exact .inr h.visible
  have args : (Lexer.evalAt offset cs).args = [⟨offset + 6, ' ' :: cs⟩] :=
    Markup.arguments_undivided undivided.blank visible _
  have inner : SameValue s (callWith room) call (x.shift (offset + 7)) ((x.shift other).withSpan span) := by
    have moved := (compatible_sameValue s (callWith room) call).shift h.tree (offset + 7) other
    exact (moved.symm.elsewhere (elsewhere_withSpan call _ span)).symm
  refine SameAnswer.mapFault_left (SameAnswer.deeper_left (inner.congr (fun p => ?_) fun _ => rfl)) fun _ => rfl
  have checked : Traversal.checkCount (Lexer.evalAt offset cs) 1 = .ok () := by
    rw [Traversal.checkCount, args]
    exact if_pos rfl
  have place : argument (Lexer.evalAt offset cs) 0 = ⟨offset + 6, ' ' :: cs⟩ := by
    rw [argument, args]
    rfl
  rw [runIn_dispatch_standard (b := .eval) (by decide) rfl]
  unfold builtin evalCall
  rw [checked, place, runIn_bind, ofFlaw, runIn_pure]
  have tokens := h.tokens_blank (offset + 6)
  exact runIn_evaluate_of_treeOf tokens (h.plain_shift _) ((treeOf_eq tokens).trans (h.parse _ _))

open Fiction.Parser (Alongside readEach)

/-- An expression in parentheses is the whole body of a map. -/
theorem readEach_enclosedAt (stop offset : Nat) (c : Expr) : ∃ whole span,
    readEach stop c (Lexer.enclosedAt offset cs lexemes) =
      .ok (.each whole c ((x.shift (offset + 1)).withSpan span), []) := by
  have body : readEach stop c (Lexer.enclosedAt offset cs lexemes) = _ :=
    Parser.readEach_body (by rintro _ ⟨⟩; rfl)
  have operand : Parser.readOperand stop (Lexer.enclosedAt offset cs lexemes) = _ :=
    Parser.readOperand_enclosed (h.read (offset + 1) 0) rfl rfl []
  rw [body, Parser.readExpression_eq, operand]
  dsimp only [bind, Except.bind]
  rw [Parser.readOperators_of_ends Parser.Closes.nil.ends]
  exact ⟨_, _, rfl⟩

/-- The two bodies are read as a call and as a tree in parentheses, and these give the same answer. -/
theorem alongside_bodies (undivided : Markup.Undivided cs) {bang : Lexeme} {room offset : Nat}
    (stop stop' : Nat) {c c' : Expr} (hc : SameValue s (callWith (room + 1)) (callWith (room + 1)) c c') :
    Alongside bang [Lexer.deferredAt offset cs] (Lexer.enclosedAt offset cs lexemes)
      (SameValue s (callWith (room + 1)) (callWith (room + 1))) []
      (readEach stop c [Lexer.deferredAt offset cs])
      (readEach stop' c' (Lexer.enclosedAt offset cs lexemes)) := by
  have deferred : readEach stop c [Lexer.deferredAt offset cs] = _ := Parser.readEach_call rfl
  obtain ⟨_, span, direct⟩ := readEach_enclosedAt h stop' offset c'
  rw [deferred, direct]
  refine Alongside.done ?_ .nil
  exact .bind hc fun whole => .mapEach (sameAnswer_evalAt h undivided room offset _ _ _) whole _ _

end

/-! ## Shapes -/

theorem length_of_eachItem {body : Expansion Value} {whole : Value} {index : Nat} {items results : List Value}
    {p q : Progress} (h : (eachItem body whole index items).runIn s p = (.ok results, q)) :
    results.length = items.length := by
  induction items generalizing index results p q with
  | nil =>
      cases h
      rfl
  | cons v rest ih =>
      obtain ⟨result, r, -, h⟩ := exists_of_runIn_bind h
      obtain ⟨others, r', hothers, h⟩ := exists_of_runIn_bind h
      cases h
      rw [List.length_cons, List.length_cons, ih hothers]

theorem keys_of_eachEntry {body : Expansion Value} {whole : Value} {entries results : List (String × Value)}
    {p q : Progress} (h : (eachEntry body whole entries).runIn s p = (.ok results, q)) :
    results.map Prod.fst = entries.map Prod.fst := by
  induction entries generalizing results p q with
  | nil =>
      cases h
      rfl
  | cons entry rest ih =>
      obtain ⟨result, r, -, h⟩ := exists_of_runIn_bind h
      obtain ⟨others, r', hothers, h⟩ := exists_of_runIn_bind h
      cases h
      rw [List.map_cons, List.map_cons, ih hothers]

/-- **A map keeps the shape of what it maps.** -/
theorem sameShape_of_mapEach {body : Expansion Value} {whole v : Value} {span : Span} {p q : Progress}
    (h : (mapEach body whole span).runIn s p = (.ok v, q)) : whole.SameShape v := by
  cases whole with
  | list items =>
      obtain ⟨results, r, hresults, h⟩ := exists_of_runIn_bind h
      cases h
      exact length_of_eachItem hresults
  | mapping entries =>
      obtain ⟨results, r, hresults, h⟩ := exists_of_runIn_bind h
      cases h
      exact keys_of_eachEntry hresults
  | _ => cases h

/-! ## The agreement -/

/-- A call behind `!` is left as it is. -/
theorem runIn_expandCalls_deferred (offset place : Nat) (cs : List Char) (p : Progress) (afterBang : Bool) :
    (expandCalls call afterBang [Lexer.bangAt offset, Lexer.deferredAt place cs]).runIn s p =
      (.ok [Lexer.bangAt offset, Lexer.deferredAt place cs], p) :=
  rfl

section

variable {c e : List Char} {collection lexemes : List Lexeme} {xc xe : Expr} (hc : ReadsAs c collection xc)
  (he : ReadsAs e lexemes xe) (undivided : Markup.Undivided e) (offset : Nat)

include hc he undivided

open Lexer (deferredMap directMap tokens_deferredMap tokens_directMap plain_directMap)

/-- **Both spellings of a map give the same answer.** -/
theorem sameAnswer_maps (room : Nat) :
    SameAnswer s (evaluate (callWith (room + 1)) ⟨offset, deferredMap c e⟩)
      (evaluate (callWith (room + 1)) ⟨offset, directMap c e⟩) := by
  have deferred := tokens_deferredMap hc he offset
  have direct := tokens_directMap hc he offset undivided
  have plain := hc.plain_shift offset
  have trees : Parallel (fun _ _ => True) (SameValue s (callWith (room + 1)) (callWith (room + 1)))
      (treeOf ⟨offset, deferredMap c e⟩) (treeOf ⟨offset, directMap c e⟩) := by
    rw [treeOf_eq deferred, treeOf_eq direct]
    exact Parser.parse_fork (compatible_sameValue s _ _) rfl
      (fun related => alongside_bodies he undivided _ _ related) (Parser.Fork.append plain)
  refine (SameAnswer.ofParallel trees).congr (fun p => ?_) fun p => ?_
  · refine runIn_evaluate_treeOf deferred ?_
    exact runIn_expandCalls_append (List.forall_mem_map.mpr plain) (runIn_expandCalls_deferred _ _ e p) false
  · exact runIn_evaluate_treeOf direct (runIn_expandCalls_plain (plain_directMap hc he offset) p)

/-- What a map gives has the shape of the collection, if `!` takes all of it. -/
theorem sameShape_of_directMap {p : Progress} {span : Span} {body : Expr} {v : Value}
    (tree : treeOf ⟨offset, directMap c e⟩ = .ok (.each span (xc.shift offset) body))
    (result : ((evaluate call ⟨offset, directMap c e⟩).runIn s p).1 = .ok v) :
    ∃ whole, (evaluate call ⟨offset, c⟩).runIn s p = (.ok whole, p) ∧ whole.SameShape v := by
  have plain := plain_directMap hc he offset
  have own := hc.tokens offset
  rw [runIn_evaluate_of_treeOf (tokens_directMap hc he offset undivided) plain tree] at result
  rw [runIn_evaluate_of_treeOf own (hc.plain_shift _) ((treeOf_eq own).trans (hc.parse _ _))]
  rcases hrun : (evalExpr call (.each span (xc.shift offset) body)).runIn s p with ⟨ended, q⟩
  rw [hrun] at result
  obtain rfl : ended = .ok v := result
  obtain ⟨whole, r, hwhole, hmap⟩ := exists_of_runIn_bind hrun
  -- the collection has no calls, so its value changes nothing
  have still := (compatible_sameValue s call call).shift hc.tree offset offset p p rfl rfl
  rw [hwhole] at still
  rcases still with ⟨a, same, -⟩ | ⟨fault, -, failed, -⟩
  · cases same
    exact ⟨whole, hwhole, sameShape_of_mapEach hmap⟩
  · cases failed

end

open Lexer (deferredMap directMap)

/-- Where the collection is one operand, `!` takes all of it. -/
theorem exists_treeOf_directMap {c e : List Char} {collection lexemes : List Lexeme} {xc xe : Expr}
    (hc : ReadsAs c collection xc) (he : ReadsAs e lexemes xe) (undivided : Markup.Undivided e) {offset : Nat}
    (operand : ∀ stop rest, Parser.readOperand stop (collection.map (·.shift offset) ++ rest) =
      .ok (xc.shift offset, rest)) :
    ∃ span body, treeOf ⟨offset, directMap c e⟩ = .ok (.each span (xc.shift offset) body) := by
  rw [treeOf_eq (Lexer.tokens_directMap hc he offset undivided)]
  obtain ⟨whole, span, body⟩ := readEach_enclosedAt he (Fragment.mk offset (directMap c e)).span.stop
    (offset + Text.byteLength c + 3) (xc.shift offset)
  refine ⟨whole, (xe.shift (offset + Text.byteLength c + 3 + 1)).withSpan span,
    Parser.parse_of_read (by simp) ?_⟩
  rw [Parser.readExpression_eq, operand]
  dsimp only [bind, Except.bind]
  rw [Parser.readOperators_each rfl (by decide), body]
  exact Parser.readOperators_of_ends Parser.Closes.nil.ends

/-- **The two spellings of the body of a map agree.** The body is an expression without calls and without a
tilde outside of quotes, escapes and brackets, and the collection is an expression without calls. With room for
one more call, evaluating the text of `eval` for each element gives the same value as the expression in
parentheses, or fails for the same cause, and nothing is changed. That the text is cut into tokens and parsed
once more for each element does not show, for this is making the call. If `!` takes all of the collection, a
value has the shape of the collection: a list of the same length, or a mapping with the same keys in the same
order. -/
theorem map_spellings_agree {c e : List Char} (hc : PlainExpression c) (he : PlainExpression e)
    (undivided : Markup.Undivided e) (s : Setting) (p : Progress) (room : p.depth < s.limit) (offset : Nat) :
    ((evaluateTop ⟨offset, deferredMap c e⟩).runIn s p).1.mapError Fault.cause =
        ((evaluateTop ⟨offset, directMap c e⟩).runIn s p).1.mapError Fault.cause ∧
      ((evaluateTop ⟨offset, deferredMap c e⟩).runIn s p).2 = p ∧
      ((evaluateTop ⟨offset, directMap c e⟩).runIn s p).2 = p ∧
      (∀ lexemes, Lexer.tokens ⟨offset, deferredMap c e⟩ = .ok lexemes → ∀ l ∈ lexemes,
        ∀ body, l.token = .call body → ∀ q, (evaluateTop body.source).runIn s q = (callTop body).runIn s q) ∧
      ∀ span x body v, treeOf ⟨offset, c⟩ = .ok x →
        treeOf ⟨offset, directMap c e⟩ = .ok (.each span x body) →
        ((evaluateTop ⟨offset, directMap c e⟩).runIn s p).1 = .ok v →
        ∃ whole, (evaluateTop ⟨offset, c⟩).runIn s p = (.ok whole, p) ∧ whole.SameShape v := by
  obtain ⟨collection, xc, readsC⟩ := hc.exists_readsAs
  obtain ⟨lexemes, xe, readsE⟩ := he.exists_readsAs
  obtain ⟨n, hn⟩ : ∃ n, s.limit - p.depth = n + 1 := ⟨s.limit - p.depth - 1, by omega⟩
  have top (f : Fragment) : (evaluateTop f).runIn s p = (evaluate (callWith (n + 1)) f).runIn s p := by
    rw [evaluateTop, runIn_room, hn]
  rw [top, top, top]
  have same : SameAnswer s _ _ := sameAnswer_maps readsC readsE undivided offset n
  obtain ⟨answer, kept, kept'⟩ := same.outcome p
  refine ⟨answer, kept, kept', ?_, ?_⟩
  · intro tokens read l hl body token q
    rw [evaluateTop, callTop, runIn_room, runIn_room, evaluate_source read hl token]
  intro span x body v tree map result
  have own := readsC.tokens offset
  rw [treeOf_eq own, readsC.parse] at tree
  cases tree
  exact sameShape_of_directMap readsC readsE undivided offset map result

/-- The body has a map in a list, and a tilde in quotes. -/
theorem nested_map_agrees :
    let e := "[\"~\", ? ! (#)]".toList
    let s : Setting := { (default : Setting) with limit := 1 }
    let p : Progress := (default : Progress).push [("?", .list [.list [.null, .null], .list []])]
    (PlainExpression ['?'] ∧ PlainExpression e ∧ Markup.Undivided e ∧ p.depth < s.limit) ∧
      ((evaluateTop ⟨0, deferredMap ['?'] e⟩).runIn s p).1.mapError Fault.cause =
        ((evaluateTop ⟨0, directMap ['?'] e⟩).runIn s p).1.mapError Fault.cause ∧
      (∀ q, (evaluateTop (Lexer.evalAt 4 e).source).runIn s q = (callTop (Lexer.evalAt 4 e)).runIn s q) ∧
      ∃ whole v, (evaluateTop ⟨0, ['?']⟩).runIn s p = (.ok whole, p) ∧
        ((evaluateTop ⟨0, directMap ['?'] e⟩).runIn s p).1 = .ok v ∧ whole.SameShape v := by
  intro e s p
  have plain : PlainExpression ['?'] := by decide +kernel
  have body : PlainExpression e := by decide +kernel
  have undivided : Markup.Undivided e := by decide +kernel
  have room : p.depth < s.limit := by decide
  obtain ⟨answer, -, -, again, shape⟩ := map_spellings_agree plain body undivided s p room 0
  obtain ⟨collection, xc, readsC⟩ := plain.exists_readsAs
  obtain ⟨lexemes, xe, readsE⟩ := body.exists_readsAs
  have deferred := Lexer.tokens_deferredMap readsC readsE 0
  refine ⟨⟨plain, body, undivided, room⟩, answer, again _ deferred (Lexer.deferredAt 4 e) ?_ _ rfl, ?_⟩
  · exact List.mem_append_right _ (List.mem_cons_of_mem _ List.mem_cons_self)
  obtain ⟨v, result⟩ : ∃ v, ((evaluateTop ⟨0, directMap ['?'] e⟩).runIn s p).1 = .ok v := by
    have isOk : ((evaluateTop ⟨0, directMap ['?'] e⟩).runIn s p).1.isOk = true := by decide +kernel
    cases hrun : ((evaluateTop ⟨0, directMap ['?'] e⟩).runIn s p).1 with
    | ok v => exact ⟨v, rfl⟩
    | error fault =>
        rw [hrun] at isOk
        cases isOk
  have token : [⟨.binding '?', ⟨0, 1⟩⟩] = collection.map (·.shift 0) :=
    Except.ok.inj (readsC.tokens 0)
  have operand (stop : Nat) (rest : List Lexeme) :
      Parser.readOperand stop (collection.map (·.shift 0) ++ rest) = .ok (xc.shift 0, rest) := by
    have tree := readsC.parse 0 ⟨0, 1⟩
    rw [← token] at tree ⊢
    rw [← Except.ok.inj tree]
    exact Parser.readOperand_leaf rfl
  obtain ⟨span, tree, map⟩ := exists_treeOf_directMap readsC readsE undivided operand
  have own : treeOf ⟨0, ['?']⟩ = .ok (xc.shift 0) := (treeOf_eq (readsC.tokens 0)).trans (readsC.parse _ _)
  obtain ⟨whole, value, same⟩ := shape span _ tree v own map result
  exact ⟨whole, v, value, result, same⟩

end Expansion

end Fiction
