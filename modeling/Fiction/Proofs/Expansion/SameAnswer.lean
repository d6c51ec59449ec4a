import Fiction.Proofs.Expansion.Keeps
import Fiction.Proofs.Expr.MapBody

/-!
# Fiction.Proofs.Expansion.SameAnswer

Computations that look at variables only, side by side.

* `SameAnswer` computations give the same value or fail for the same cause wherever the same variables are seen,
  and change nothing. Where they fail and how deep they are in calls does not matter.
* `compatible_sameValue`: trees give the same answer if their parts do. So two readings of one expression do,
  by the lemmas on `Expr.Compatible`.
-/

namespace Fiction.Expansion

variable {α β : Type} {s : Setting}

/-- Where the same variables are seen, both computations give the same value or fail for the same cause, and
neither changes anything. -/
def SameAnswer (s : Setting) (x y : Expansion α) : Prop :=
  ∀ p q : Progress, q.scope = p.scope → q.world.store = p.world.store →
    (∃ a, x.runIn s p = (.ok a, p) ∧ y.runIn s q = (.ok a, q)) ∨
    ∃ fault fault', x.runIn s p = (.error fault, p) ∧ y.runIn s q = (.error fault', q) ∧
      fault'.cause = fault.cause

/-- Two computations that differ in the places at which they fail only. -/
def Elsewhere (x y : Expansion α) : Prop :=
  ∀ s p, (y.runIn s p).2 = (x.runIn s p).2 ∧
    (y.runIn s p).1.mapError Fault.cause = (x.runIn s p).1.mapError Fault.cause

namespace Elsewhere

variable {f g : α → Expansion β}

theorem refl (x : Expansion α) : Elsewhere x x :=
  fun _ _ => ⟨rfl, rfl⟩

theorem ofOutcome (outcome : Outcome α) (span span' : Span) :
    Elsewhere (ofOutcome span outcome) (ofOutcome span' outcome) := by
  cases outcome with
  | ok a => exact refl _
  | error cause => exact fun _ _ => ⟨rfl, rfl⟩

theorem bind (x : Expansion α) (h : ∀ a, Elsewhere (f a) (g a)) :
    Elsewhere (x >>= f) (x >>= g) := by
  intro s p
  rw [runIn_bind, runIn_bind]
  rcases x.runIn s p with ⟨result, q⟩
  cases result with
  | ok a => exact h a s q
  | error fault => exact ⟨rfl, rfl⟩

end Elsewhere

namespace SameAnswer

variable {x y : Expansion α} {f g : α → Expansion β}

theorem symm (h : SameAnswer s x y) : SameAnswer s y x := by
  intro p q scope store
  rcases h q p scope.symm store.symm with ⟨a, hx, hy⟩ | ⟨fault, fault', hx, hy, cause⟩
  · exact .inl ⟨a, hy, hx⟩
  · exact .inr ⟨fault', fault, hy, hx, cause.symm⟩

/-- Computations that run alike. -/
theorem congr {x' y' : Expansion α} (h : SameAnswer s x y)
    (hx : ∀ p, x'.runIn s p = x.runIn s p) (hy : ∀ p, y'.runIn s p = y.runIn s p) :
    SameAnswer s x' y' := by
  intro p q scope store
  rw [hx, hy]
  exact h p q scope store

/-- A computation can be replaced by one that fails elsewhere. -/
theorem elsewhere {x' : Expansion α} (h : SameAnswer s x y) (hx' : Elsewhere x x') :
    SameAnswer s x' y := by
  intro p q scope store
  obtain ⟨ends, cause⟩ := hx' s p
  rcases hrun : x'.runIn s p with ⟨result, r⟩
  rw [hrun] at ends cause
  rcases h p q scope store with ⟨a, hx, hy⟩ | ⟨fault, fault', hx, hy, same⟩
  · rw [hx] at ends cause
    cases result with
    | ok b =>
        cases cause
        exact .inl ⟨a, Prod.ext rfl ends, hy⟩
    | error fault => cases cause
  · rw [hx] at ends cause
    cases result with
    | ok b => cases cause
    | error moved =>
        have kept : moved.cause = fault.cause := Except.error.inj cause
        exact .inr ⟨moved, fault', Prod.ext rfl ends, hy, same.trans kept.symm⟩

theorem pure (a : α) : SameAnswer s (pure a) (pure a) :=
  fun _ _ _ _ => .inl ⟨a, rfl, rfl⟩

theorem fail (cause : Cause) (span span' : Span) :
    SameAnswer s (fail cause span : Expansion α) (fail cause span') :=
  fun _ _ _ _ => .inr ⟨_, _, rfl, rfl, rfl⟩

theorem ofOutcome (outcome : Outcome α) (span span' : Span) :
    SameAnswer s (ofOutcome span outcome) (ofOutcome span' outcome) := by
  cases outcome with
  | ok a => exact pure a
  | error cause => exact fail cause span span'

/-- Only what is seen of the variables matters. -/
theorem resolve (path : Path) : SameAnswer s (resolve path) (resolve path) := by
  intro p q scope store
  refine .inl ⟨_, rfl, ?_⟩
  rw [runIn_resolve, scope, store]

theorem bind (h : SameAnswer s x y) (hf : ∀ a, SameAnswer s (f a) (g a)) :
    SameAnswer s (x >>= f) (y >>= g) := by
  intro p q scope store
  rw [runIn_bind, runIn_bind]
  rcases h p q scope store with ⟨a, hx, hy⟩ | ⟨fault, fault', hx, hy, cause⟩
  · rw [hx, hy]
    exact hf a p q scope store
  · rw [hx, hy]
    exact .inr ⟨fault, fault', rfl, rfl, cause⟩

/-- What both computations give from one state. -/
theorem outcome (h : SameAnswer s x y) (p : Progress) :
    (x.runIn s p).1.mapError Fault.cause = (y.runIn s p).1.mapError Fault.cause ∧
      (x.runIn s p).2 = p ∧ (y.runIn s p).2 = p := by
  rcases h p p rfl rfl with ⟨a, hx, hy⟩ | ⟨fault, fault', hx, hy, cause⟩
  · rw [hx, hy]
    exact ⟨rfl, rfl, rfl⟩
  · rw [hx, hy]
    exact ⟨congrArg Except.error cause.symm, rfl, rfl⟩

/-- A change of the fault that keeps its cause does not matter. -/
theorem mapFault_left (h : SameAnswer s x y) {change : Fault → Fault}
    (hchange : ∀ fault, (change fault).cause = fault.cause) :
    SameAnswer s (mapFault change x) y := by
  intro p q scope store
  rw [runIn_mapFault]
  rcases h p q scope store with ⟨a, hx, hy⟩ | ⟨fault, fault', hx, hy, cause⟩
  · rw [hx]
    exact .inl ⟨a, rfl, hy⟩
  · rw [hx]
    exact .inr ⟨change fault, fault', rfl, hy, cause.trans (hchange fault).symm⟩

/-- The number of calls in progress does not matter. -/
theorem deeper_left (h : SameAnswer s x y) :
    SameAnswer s (borrowing Progress.deeper (fun p _ => p.shallower) x) y := by
  intro p q scope store
  rw [runIn_borrowing]
  rcases h p.deeper q scope store with ⟨a, hx, hy⟩ | ⟨fault, fault', hx, hy, cause⟩
  · rw [hx]
    exact .inl ⟨a, rfl, hy⟩
  · rw [hx]
    exact .inr ⟨fault, fault', rfl, hy, cause⟩

/-! ### Maps and folds -/

section

variable {body body' : Expansion Value} (h : SameAnswer s body body')

include h

theorem runBody (whole element key : Value) :
    SameAnswer s (runBody body whole element key) (runBody body' whole element key) := by
  intro p q scope store
  unfold Expansion.runBody
  dsimp only
  rw [runIn_borrowing, runIn_borrowing]
  generalize [("?", element), ("@", whole), ("#", key)] = frame
  have inside : (q.push frame).scope = (p.push frame).scope := by
    unfold Progress.push
    rw [scope]
  rcases h (p.push frame) (q.push frame) inside store with ⟨a, hx, hy⟩ | ⟨fault, fault', hx, hy, cause⟩
  · rw [hx, hy]
    exact .inl ⟨a, rfl, rfl⟩
  · rw [hx, hy]
    exact .inr ⟨fault, fault', rfl, rfl, cause⟩

theorem eachItem (whole : Value) (index : Nat) (items : List Value) :
    SameAnswer s (eachItem body whole index items) (eachItem body' whole index items) := by
  induction items generalizing index with
  | nil => exact pure []
  | cons v rest ih =>
      refine bind (runBody h whole v _) fun result => ?_
      exact bind (ih (index + 1)) fun _ => pure _

theorem eachEntry (whole : Value) (entries : List (String × Value)) :
    SameAnswer s (eachEntry body whole entries) (eachEntry body' whole entries) := by
  induction entries with
  | nil => exact pure []
  | cons entry rest ih =>
      obtain ⟨key, v⟩ := entry
      refine bind (runBody h whole v _) fun result => ?_
      exact bind ih fun _ => pure _

/-- Maps with bodies that give the same answers. Where they fail is not compared. -/
theorem mapEach (whole : Value) (span span' : Span) :
    SameAnswer s (mapEach body whole span) (mapEach body' whole span') := by
  unfold Expansion.mapEach
  split
  · exact bind (eachItem h _ _ _) fun _ => pure _
  · exact bind (eachEntry h _ _) fun _ => pure _
  · exact fail _ span span'

end

theorem reduceValue {op : Operator} {place place' : Span} {seed seed' : Expansion Value}
    {signed signed' : Option (Expansion Value)} (folded : Value) (hseed : SameAnswer s seed seed')
    (hsigned : Option.Rel (SameAnswer s) signed signed') :
    SameAnswer s (reduceValue op place folded seed signed)
      (reduceValue op place' folded seed' signed') := by
  cases folded with
  | list items =>
      cases hsigned with
      | none => exact bind hseed fun _ => ofOutcome _ place place'
      | some _ => exact bind hseed fun _ => ofOutcome _ place place'
  | _ =>
      cases hsigned with
      | none => exact bind hseed fun _ => fail _ place place'
      | some operand => exact bind operand fun _ => ofOutcome _ place place'

end SameAnswer

/-! ## Trees -/

variable {call call' : Caller}

/-- Trees that give the same answer with two callers. -/
def SameValue (s : Setting) (call call' : Caller) (x y : Expr) : Prop :=
  SameAnswer s (evalExpr call x) (evalExpr call' y)

theorem sameAnswer_evalItems {xs ys : List Expr} (h : List.Forall₂ (SameValue s call call') xs ys) :
    SameAnswer s (evalItems call xs) (evalItems call' ys) := by
  induction h with
  | nil => exact .pure []
  | cons first _ ih =>
      refine .bind first fun v => ?_
      exact .bind ih fun _ => .pure _

theorem sameAnswer_evalEntries {es fs : List (Expr × Expr)}
    (h : List.Forall₂ (fun e f => SameValue s call call' e.1 f.1 ∧ SameValue s call call' e.2 f.2) es fs) :
    SameAnswer s (evalEntries call es) (evalEntries call' fs) := by
  induction h with
  | nil => exact .pure []
  | @cons e f _ _ first _ ih =>
      obtain ⟨key, value⟩ := first
      refine SameAnswer.bind key fun k => ?_
      split
      · refine SameAnswer.bind value fun v => ?_
        exact SameAnswer.bind ih fun _ => .pure _
      · exact .fail _ _ _

/-- Only the place at which a tree fails depends on its range. -/
theorem elsewhere_withSpan (call : Caller) (x : Expr) (span : Span) :
    Elsewhere (evalExpr call x) (evalExpr call (x.withSpan span)) := by
  cases x with
  | lookup _ path => exact .bind _ fun _ => .ofOutcome _ _ _
  | unary _ op x => exact .bind _ fun _ => .ofOutcome _ _ _
  | index _ t i => exact .bind _ fun _ => .bind _ fun _ => .ofOutcome _ _ _
  | binary _ op place l r =>
      cases op with
      | _ => exact .refl _
  | reduce _ op place l seed signed =>
      cases signed with
      | none => exact .refl _
      | some operand => exact .refl _
  | _ => exact .refl _

theorem SameValue.withSpan {x y : Expr} (h : SameValue s call call' x y) (span span' : Span) :
    SameValue s call call' (x.withSpan span) (y.withSpan span') :=
  (SameAnswer.elsewhere h (elsewhere_withSpan call x span)).symm.elsewhere
    (elsewhere_withSpan call' y span') |>.symm

/-- **Trees of the same shape give the same answers** if their leaves do. -/
theorem compatible_sameValue (s : Setting) (call call' : Caller) :
    Expr.Compatible (SameValue s call call') where
  literal := .pure _
  lookup := .bind (.resolve _) fun _ => .ofOutcome _ _ _
  list h := .bind (sameAnswer_evalItems h) fun _ => .pure _
  mapping h := .bind (sameAnswer_evalEntries h) fun _ => .pure _
  unary h := .bind h fun _ => .ofOutcome _ _ _
  binary {_ _ op _ _ _ _ _ _} hl hr := by
    cases op with
    | and =>
        refine .bind hl fun v => ?_
        split
        · exact hr
        · exact .pure _
    | or =>
        refine .bind hl fun v => ?_
        split
        · exact .pure _
        · exact hr
    | _ =>
        refine .bind hl fun _ => ?_
        exact .bind hr fun _ => .ofOutcome _ _ _
  ternary hl hm hr := .bind hl fun _ => .bind hm fun _ => .bind hr fun _ => .ofOutcome _ _ _
  index ht hi := .bind ht fun _ => .bind hi fun _ => .ofOutcome _ _ _
  reduce hl hseed hsigned := by
    cases hsigned with
    | none => exact .bind hl fun folded => .reduceValue folded hseed .none
    | some operand => exact .bind hl fun folded => .reduceValue folded hseed (.some operand)
  each hc hbody := .bind hc fun _ => .mapEach hbody _ _ _
  withSpan h := h.withSpan _ _

/-- Trees that give the same answer, or no trees for the same cause. -/
theorem SameAnswer.ofParallel {parsed parsed' : Except Flaw Expr}
    (h : Parallel (fun _ _ => True) (SameValue s call call') parsed parsed') :
    SameAnswer s (ofFlaw parsed >>= evalExpr call) (ofFlaw parsed' >>= evalExpr call') := by
  cases h with
  | ok same =>
      rw [ofFlaw, ofFlaw, pure_bind, pure_bind]
      exact same
  | error cause _ _ => exact fun _ _ _ _ => .inr ⟨_, _, rfl, rfl, cause⟩

end Fiction.Expansion
