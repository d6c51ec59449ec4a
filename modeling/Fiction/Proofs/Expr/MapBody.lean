import Fiction.Proofs.Expr.Resume
import Fiction.Proofs.Expr.Shift
import Fiction.Proofs.Markup.Alike

/-!
# Fiction.Proofs.Expr.MapBody

**The body of a map can be written in two ways.** Two lists of tokens are the same up to a `!`, and behind
it each of them has one body and nothing else. The parser makes the same choices on both.

* `Expr.Compatible R` says that `R` relates trees whose parts it relates, whatever their ranges are.
* `Fork` is two lists of tokens that are the same up to the `!`.
* `Alongside` is what is known of two readings: both fail for the same cause, or they give related results
  and leave the same tokens, up to the `!` again. `AlongsideAll` states this for all functions of the parser
  at once, by induction on three times the number of tokens.
* `parse_fork` is the result: if the bodies are related, then so are the trees.
-/

namespace Fiction

/-! ## Relations between trees -/

/-- A relation between trees that holds if it holds of their parts, whatever their ranges are. -/
structure Expr.Compatible (R : Expr → Expr → Prop) : Prop where
  literal : ∀ {s s' v}, R (.literal s v) (.literal s' v)
  lookup : ∀ {s s' p}, R (.lookup s p) (.lookup s' p)
  list : ∀ {s s' xs ys}, List.Forall₂ R xs ys → R (.list s xs) (.list s' ys)
  mapping : ∀ {s s' es fs}, List.Forall₂ (fun e f => R e.1 f.1 ∧ R e.2 f.2) es fs →
    R (.mapping s es) (.mapping s' fs)
  unary : ∀ {s s' op x y}, R x y → R (.unary s op x) (.unary s' op y)
  binary : ∀ {s s' op place place' l l' r r'}, R l l' → R r r' →
    R (.binary s op place l r) (.binary s' op place' l' r')
  ternary : ∀ {s s' op place place' l l' m m' r r'}, R l l' → R m m' → R r r' →
    R (.ternary s op place l m r) (.ternary s' op place' l' m' r')
  index : ∀ {s s' t t' i i'}, R t t' → R i i' → R (.index s t i) (.index s' t' i')
  reduce : ∀ {s s' op place place' l l' seed seed' signed signed'}, R l l' → R seed seed' →
    Option.Rel R signed signed' →
    R (.reduce s op place l seed signed) (.reduce s' op place' l' seed' signed')
  each : ∀ {s s' c c' body body'}, R c c' → R body body' → R (.each s c body) (.each s' c' body')
  withSpan : ∀ {s s' x y}, R x y → R (x.withSpan s) (y.withSpan s')

theorem Expr.forall₂_shiftItems {R : Expr → Expr → Prop} {a b : Nat} {items : List Expr}
    (h : ∀ x ∈ items, R (x.shift a) (x.shift b)) :
    List.Forall₂ R (shiftItems a items) (shiftItems b items) := by
  induction items with
  | nil => exact .nil
  | cons x rest ih =>
      obtain ⟨first, others⟩ := List.forall_mem_cons.mp h
      exact .cons first (ih others)

theorem Expr.forall₂_shiftEntries {R : Expr → Expr → Prop} {a b : Nat} {entries : List (Expr × Expr)}
    (hkeys : ∀ entry ∈ entries, R (entry.1.shift a) (entry.1.shift b))
    (hvalues : ∀ entry ∈ entries, R (entry.2.shift a) (entry.2.shift b)) :
    List.Forall₂ (fun e f => R e.1 f.1 ∧ R e.2 f.2) (shiftEntries a entries) (shiftEntries b entries) := by
  induction entries with
  | nil => exact .nil
  | cons entry rest ih =>
      obtain ⟨key, keys⟩ := List.forall_mem_cons.mp hkeys
      obtain ⟨value, values⟩ := List.forall_mem_cons.mp hvalues
      exact .cons ⟨key, value⟩ (ih keys values)

namespace Expr.Compatible

variable {R : Expr → Expr → Prop} (compatible : Compatible R)

include compatible

theorem leaf {lexeme : Lexeme} {x : Expr} (h : lexeme.leaf? = some x) : R x x := by
  unfold Lexeme.leaf? at h
  split at h
  · cases h
    exact compatible.literal
  · split at h
    · cases h
      exact compatible.lookup
    · cases h
  · cases h
    exact compatible.lookup
  · cases h

/-- Two shifts of a tree without calls are related. -/
theorem shift {placed : Span → Prop} {x : Expr} (h : x.All (·.call? = none) placed) (a b : Nat) :
    R (x.shift a) (x.shift b) := by
  induction h with
  | literal _ _ => exact compatible.literal
  | lookup _ => exact compatible.lookup
  | list _ _ items => exact compatible.list (forall₂_shiftItems items)
  | mapping _ _ _ keys values => exact compatible.mapping (forall₂_shiftEntries keys values)
  | unary _ _ x => exact compatible.unary x
  | binary _ _ _ _ l r => exact compatible.binary l r
  | ternary _ _ _ _ _ l m r => exact compatible.ternary l m r
  | index _ _ _ t i => exact compatible.index t i
  | @reduce _ _ _ _ _ signed _ _ _ _ _ l seed second =>
      cases signed with
      | none => exact compatible.reduce l seed .none
      | some x => exact compatible.reduce l seed (.some (second x rfl))
  | each _ _ _ c body => exact compatible.each c body
  | eachCall _ _ call _ => cases call

end Expr.Compatible

namespace Parser

variable {α β γ δ : Type} {bang lexeme : Lexeme} {us vs as bs : List Lexeme}

/-! ## Two lists of tokens -/

/-- The same tokens, none of them a call, up to a place where they may go on differently. -/
inductive Fork (bang : Lexeme) (us vs : List Lexeme) : List Lexeme → List Lexeme → Prop
  | nil : Fork bang us vs [] []
  | here : Fork bang us vs (bang :: us) (bang :: vs)
  | cons {lexeme : Lexeme} {as bs : List Lexeme} : lexeme.token.call? = none → Fork bang us vs as bs →
      Fork bang us vs (lexeme :: as) (lexeme :: bs)

theorem Fork.head?_eq (h : Fork bang us vs as bs) : bs.head? = as.head? := by
  cases h with
  | nil => rfl
  | here => rfl
  | cons _ _ => rfl

theorem Fork.append {front : List Lexeme} (h : ∀ l ∈ front, l.token.call? = none) :
    Fork bang us vs (front ++ bang :: us) (front ++ bang :: vs) := by
  induction front with
  | nil => exact .here
  | cons lexeme front ih =>
      obtain ⟨first, others⟩ := List.forall_mem_cons.mp h
      exact .cons first (ih others)

/-- A mark that is looked for is next in both lists or in none of them. -/
theorem Fork.nextIs_cases {m : Mark} (hm : m ≠ .bang) (hbang : bang.token = .mark .bang)
    (h : Fork bang us vs as bs) : (nextIs m as = false ∧ nextIs m bs = false) ∨
      (nextIs m as = true ∧ nextIs m bs = true ∧ Fork bang us vs (as.drop 1) (bs.drop 1)) := by
  cases h with
  | nil => exact .inl ⟨rfl, rfl⟩
  | here =>
      have other : (m == .bang) = false := beq_eq_false_iff_ne.mpr hm
      rw [nextIs_of_token m hbang, nextIs_of_token m hbang]
      exact .inl ⟨other, other⟩
  | @cons lexeme as bs _ rest =>
      cases found : lexeme.token.isMark m with
      | true => exact .inr ⟨found, found, rest⟩
      | false => exact .inl ⟨found, found⟩

/-- Two readings that fail for the same cause, or give related results and leave the same tokens. -/
def Alongside (bang : Lexeme) (us vs : List Lexeme) (V : α → β → Prop) (as : List Lexeme) :
    Except Flaw (Parsed α) → Except Flaw (Parsed β) → Prop :=
  Parallel (fun _ _ => True) fun read read' =>
    V read.1 read'.1 ∧ Fork bang us vs read.2 read'.2 ∧ read.2.length ≤ as.length

namespace Alongside

variable {V : α → β → Prop} {W : γ → δ → Prop} {x : Except Flaw (Parsed α)} {y : Except Flaw (Parsed β)}

theorem done {a : α} {b : β} (h : V a b) (fork : Fork bang us vs as bs) :
    Alongside bang us vs V as (.ok (a, as)) (.ok (b, bs)) :=
  .ok ⟨h, fork, Nat.le_refl _⟩

theorem flaw {flaw flaw' : Flaw} (cause : flaw'.cause = flaw.cause) (call : flaw'.call = flaw.call) :
    Alongside bang us vs V as (.error flaw) (.error flaw') :=
  .error cause call trivial

/-- There may be more tokens in front. -/
theorem longer {cs : List Lexeme} (h : Alongside bang us vs V cs x y) (hlength : cs.length ≤ as.length) :
    Alongside bang us vs V as x y :=
  Parallel.mono h fun _ _ found => ⟨found.1, found.2.1, found.2.2.trans hlength⟩

theorem skip (h : Alongside bang us vs V as x y) : Alongside bang us vs V (lexeme :: as) x y :=
  h.longer (Nat.le_succ _)

/-- Reading something else behind what was read. -/
theorem bind {f : Parsed α → Except Flaw (Parsed γ)} {g : Parsed β → Except Flaw (Parsed δ)}
    (h : Alongside bang us vs V as x y)
    (hf : ∀ a b cs ds, x = .ok (a, cs) → y = .ok (b, ds) → V a b → Fork bang us vs cs ds →
      cs.length ≤ as.length → Alongside bang us vs W cs (f (a, cs)) (g (b, ds))) :
    Alongside bang us vs W as (x >>= f) (y >>= g) := by
  cases h with
  | error cause call _ => exact .error cause call trivial
  | @ok read read' found =>
      obtain ⟨value, fork, shorter⟩ := found
      exact (hf _ _ _ _ rfl rfl value fork shorter).longer shorter

end Alongside

theorem expect_alongside {stop stop' : Nat} {what : String} {mark : Mark} (hmark : mark ≠ .bang)
    (hbang : bang.token = .mark .bang) (fork : Fork bang us vs as bs) :
    Alongside bang us vs (fun _ _ => True) as (expect stop mark what as) (expect stop' mark what bs) := by
  have same (lexeme : Lexeme) {cs ds : List Lexeme} (rest : lexeme.token.isMark mark = true →
      Fork bang us vs cs ds) : Alongside bang us vs (fun _ _ => True) (lexeme :: cs)
      (expect stop mark what (lexeme :: cs)) (expect stop' mark what (lexeme :: ds)) := by
    unfold expect
    by_cases found : lexeme.token.isMark mark = true
    · simp only [if_pos found]
      exact .skip (.done trivial (rest found))
    · simp only [if_neg found]
      exact .flaw rfl rfl
  cases fork with
  | nil =>
      unfold expect
      cases mark.opener? with
      | none => exact .flaw rfl rfl
      | some opener => exact .flaw rfl rfl
  | here =>
      refine same bang fun found => absurd ?_ hmark
      rw [hbang] at found
      exact beq_iff_eq.mp found
  | cons _ rest => exact same _ fun _ => rest

/-- What the functions of the parser read from two lists of few tokens. -/
structure AlongsideAll (R : Expr → Expr → Prop) (bang : Lexeme) (us vs : List Lexeme)
    (stop stop' n : Nat) : Prop where
  expression : ∀ {as bs} least, Fork bang us vs as bs → 3 * as.length + 2 ≤ n →
    Alongside bang us vs R as (readExpression stop least as) (readExpression stop' least bs)
  operators : ∀ {as bs left left'} least, Fork bang us vs as bs → R left left' →
    3 * as.length + 1 ≤ n →
    Alongside bang us vs R as (readOperators stop least left as) (readOperators stop' least left' bs)
  operand : ∀ {as bs}, Fork bang us vs as bs → 3 * as.length + 1 ≤ n →
    Alongside bang us vs R as (readOperand stop as) (readOperand stop' bs)
  infixed : ∀ {as bs left left'} op place, Fork bang us vs as bs → R left left' →
    3 * as.length + 3 ≤ n →
    Alongside bang us vs R as (readInfixed stop left op place as) (readInfixed stop' left' op place bs)
  each : ∀ {as bs left left'}, Fork bang us vs as bs → R left left' → 3 * as.length + 3 ≤ n →
    Alongside bang us vs R as (readEach stop left as) (readEach stop' left' bs)
  items : ∀ {as bs}, Fork bang us vs as bs → 3 * as.length + 3 ≤ n →
    Alongside bang us vs (List.Forall₂ R) as (readItems stop as) (readItems stop' bs)
  entries : ∀ {as bs}, Fork bang us vs as bs → 3 * as.length + 3 ≤ n →
    Alongside bang us vs (List.Forall₂ fun e f => R e.1 f.1 ∧ R e.2 f.2) as (readEntries stop as)
      (readEntries stop' bs)

section

variable {R : Expr → Expr → Prop} (compatible : Expr.Compatible R) {stop stop' n : Nat}
  {left left' : Expr} (hbang : bang.token = .mark .bang)
  (hbody : ∀ {c c'}, R c c' → Alongside bang us vs R [] (readEach stop c us) (readEach stop' c' vs))
  (ih : AlongsideAll R bang us vs stop stop' n) (fork : Fork bang us vs as bs)

include ih fork

theorem expression_alongside (least : Nat) (h : 3 * as.length + 2 ≤ n + 1) :
    Alongside bang us vs R as (readExpression stop least as) (readExpression stop' least bs) := by
  rw [readExpression_eq, readExpression_eq]
  refine Alongside.bind (ih.operand fork (by omega)) fun x y cs ds _ _ related rest shorter => ?_
  exact ih.operators least rest related (by omega)

include compatible hbang

theorem step_alongside (lexeme : Lexeme) (hleft : R left left') (h : 3 * as.length + 3 ≤ n) :
    Alongside bang us vs R as (readStep stop left lexeme as) (readStep stop' left' lexeme bs) := by
  unfold readStep
  split
  · refine Alongside.bind (ih.expression 0 fork (by omega)) fun x y cs ds _ _ related rest _ => ?_
    refine Alongside.bind (expect_alongside (by decide) hbang rest) fun _ _ cs ds _ _ _ rest _ => ?_
    exact .done (compatible.index hleft related) rest
  · exact ih.each fork hleft h
  · exact ih.infixed _ _ fork hleft h
  · exact .done hleft fork

include hbody

theorem operators_alongside (least : Nat) (hleft : R left left') (h : 3 * as.length + 1 ≤ n + 1) :
    Alongside bang us vs R as (readOperators stop least left as) (readOperators stop' least left' bs) := by
  rcases ends_or_goesOn least as with ends | ⟨lexeme, rest, rfl, tight⟩
  · have ends' : Ends least bs := by
      unfold Ends
      rw [fork.head?_eq]
      exact ends
    rw [readOperators_of_ends ends, readOperators_of_ends ends']
    exact .done hleft fork
  · rw [List.length_cons] at h
    cases fork with
    | here =>
        have whole : Alongside bang us vs R [] (readStep stop left bang us) (readStep stop' left' bang vs) := by
          rw [readStep, readStep, hbang]
          exact hbody hleft
        rw [readOperators_step left tight, readOperators_step left' tight]
        refine Alongside.longer (Alongside.bind whole ?_) (Nat.zero_le _)
        intro x y cs ds _ _ related rest shorter
        rw [List.length_nil] at shorter
        exact ih.operators least rest related (by omega)
    | cons _ fork =>
        rw [readOperators_step left tight, readOperators_step left' tight]
        refine .skip (Alongside.bind (step_alongside compatible hbang ih fork lexeme hleft (by omega)) ?_)
        intro x y cs ds _ _ related rest shorter
        exact ih.operators least rest related (by omega)

omit hbody in
theorem operand_alongside (h : 3 * as.length + 1 ≤ n + 1) :
    Alongside bang us vs R as (readOperand stop as) (readOperand stop' bs) := by
  cases fork with
  | nil => exact .flaw rfl rfl
  | here =>
      have flawed : ∃ flaw, ∀ stop rest, readOperand stop (bang :: rest) = .error flaw := by
        refine ⟨unexpected "an expression" bang, fun stop rest => ?_⟩
        rw [readOperand, depthFor, operand, hbang]
      obtain ⟨flaw, failed⟩ := flawed
      rw [failed, failed]
      exact .flaw rfl rfl
  | @cons lexeme as bs _ fork =>
      rw [List.length_cons] at h
      rcases readOperand_cases lexeme with ⟨x, leaf⟩ | ⟨sign, token⟩ | token | token | token | ⟨flaw, -, h⟩
      · rw [readOperand_leaf leaf, readOperand_leaf leaf]
        exact .skip (.done (compatible.leaf leaf) fork)
      · rw [readOperand_sign token, readOperand_sign token]
        refine .skip (Alongside.bind (ih.expression _ fork (by omega)) ?_)
        intro x y cs ds _ _ related rest _
        exact .done (compatible.unary related) rest
      · rw [readOperand_paren token, readOperand_paren token]
        refine .skip (Alongside.bind (ih.expression 0 fork (by omega)) ?_)
        intro x y cs ds _ _ related rest _
        refine Alongside.bind (expect_alongside (by decide) hbang rest) fun _ _ cs ds _ _ _ rest _ => ?_
        exact .done (compatible.withSpan related) rest
      · rw [readOperand_list token, readOperand_list token]
        refine .skip (Alongside.bind (ih.items fork (by omega)) ?_)
        intro xs ys cs ds _ _ related rest _
        refine Alongside.bind (expect_alongside (by decide) hbang rest) fun _ _ cs ds _ _ _ rest _ => ?_
        exact .done (compatible.list related) rest
      · rw [readOperand_mapping token, readOperand_mapping token]
        refine .skip (Alongside.bind (ih.entries fork (by omega)) ?_)
        intro xs ys cs ds _ _ related rest _
        refine Alongside.bind (expect_alongside (by decide) hbang rest) fun _ _ cs ds _ _ _ rest _ => ?_
        exact .done (compatible.mapping related) rest
      · rw [h, h]
        exact .flaw rfl rfl

omit hbody compatible hbang in
/-- The second readings of two reductions. Where the seeds are read, both are there. -/
theorem signedReading_alongside {fold : Operator} {seed seed' : Parsed Expr}
    (hfold : lexeme.token = .operator fold) (h : 3 * (lexeme :: as).length + 2 ≤ n)
    (hseed : readExpression stop Operator.bar.binding.2 as = .ok seed)
    (hseed' : readExpression stop' Operator.bar.binding.2 bs = .ok seed') :
    Option.Rel R (signedReading stop fold (lexeme :: as) seed.2)
      (signedReading stop' fold (lexeme :: bs) seed'.2) := by
  cases hsign : sign? fold with
  | none =>
      rw [signedReading, signedReading, hsign]
      exact .none
  | some sign =>
      obtain ⟨x, hx, signed⟩ := exists_signedReading hsign hfold hseed
      obtain ⟨y, hy, signed'⟩ := exists_signedReading hsign hfold hseed'
      have both := ih.expression Operator.bar.binding.2 (.cons (by rw [hfold]; rfl) fork) h
      rw [hx, hy] at both
      rw [signed, signed']
      cases both with
      | ok found => exact .some found.1

omit hbody in
theorem infixed_alongside (op : Operator) (place : Span) (hleft : R left left')
    (h : 3 * as.length + 3 ≤ n + 1) :
    Alongside bang us vs R as (readInfixed stop left op place as)
      (readInfixed stop' left' op place bs) := by
  by_cases reduces : ∃ lexeme fold, op = .bar ∧ as.head? = some lexeme ∧ lexeme.token = .operator fold
  · obtain ⟨lexeme, fold, rfl, head, token⟩ := reduces
    cases fork with
    | nil => cases head
    | here =>
        cases head
        rw [hbang] at token
        cases token
    | @cons _ as bs _ fork =>
        cases head
        have bound := h
        rw [List.length_cons] at h
        rw [readInfixed_reduce token, readInfixed_reduce token]
        refine .skip (Alongside.bind (ih.expression _ fork (by omega)) ?_)
        intro x y cs ds hseed hseed' related rest _
        refine .done (compatible.reduce hleft related ?_) rest
        exact signedReading_alongside ih fork token (by omega) hseed hseed'
  · have operation : op = .bar → ∀ l ∈ as.head?, ∀ fold, l.token ≠ .operator fold :=
      fun hop l hl fold token => reduces ⟨l, fold, hop, hl, token⟩
    have operation' : op = .bar → ∀ l ∈ bs.head?, ∀ fold, l.token ≠ .operator fold := by
      rw [fork.head?_eq]
      exact operation
    rw [readInfixed_operation operation, readInfixed_operation operation']
    refine Alongside.bind (ih.expression _ fork (by omega)) fun x y cs ds _ _ related rest shorter => ?_
    dsimp only
    rcases rest.nextIs_cases (m := .tilde) (by decide) hbang with ⟨other, other'⟩ | ⟨tilde, tilde', behind⟩
    · rw [other, other', Bool.and_false, if_neg Bool.false_ne_true, if_neg Bool.false_ne_true]
      exact .done (compatible.binary hleft related) rest
    · rw [tilde, tilde', Bool.and_true]
      split
      · have length := length_drop_of_nextIs tilde
        refine Alongside.longer (Alongside.bind (ih.expression _ behind (by omega)) ?_) (by omega)
        intro z w cs ds _ _ third rest _
        exact .done (compatible.ternary hleft related third) rest
      · exact .done (compatible.binary hleft related) rest

omit hbody in
theorem each_alongside (hleft : R left left') (h : 3 * as.length + 3 ≤ n + 1) :
    Alongside bang us vs R as (readEach stop left as) (readEach stop' left' bs) := by
  have plain : ∀ l ∈ as.head?, l.token.call? = none := by
    cases fork with
    | nil => exact nofun
    | here =>
        rintro _ ⟨⟩
        rw [hbang]
        rfl
    | cons first _ =>
        rintro _ ⟨⟩
        exact first
  rw [readEach_body plain, readEach_body (by rw [fork.head?_eq]; exact plain)]
  refine Alongside.bind (ih.expression _ fork (by omega)) fun x y cs ds _ _ related rest _ => ?_
  exact .done (compatible.each hleft related) rest

omit hbody compatible in
theorem items_alongside (h : 3 * as.length + 3 ≤ n + 1) :
    Alongside bang us vs (List.Forall₂ R) as (readItems stop as) (readItems stop' bs) := by
  rcases fork.nextIs_cases (m := .closeBracket) (by decide) hbang with ⟨more, more'⟩ | ⟨close, close', _⟩
  · rw [readItems_item more, readItems_item more']
    refine Alongside.bind (ih.expression 0 fork (by omega)) fun x y cs ds _ _ related rest shorter => ?_
    dsimp only
    rcases rest.nextIs_cases (m := .comma) (by decide) hbang with ⟨other, other'⟩ | ⟨comma, comma', behind⟩
    · rw [other, other', if_neg Bool.false_ne_true, if_neg Bool.false_ne_true]
      exact .done (.cons related .nil) rest
    · have length := length_drop_of_nextIs comma
      rw [comma, comma', if_pos rfl, if_pos rfl]
      refine Alongside.longer (Alongside.bind (ih.items behind (by omega)) ?_) (by omega)
      intro xs ys cs ds _ _ others rest _
      exact .done (.cons related others) rest
  · rw [readItems_close close, readItems_close close']
    exact .done .nil fork

omit hbody compatible in
theorem entries_alongside (h : 3 * as.length + 3 ≤ n + 1) :
    Alongside bang us vs (List.Forall₂ fun e f => R e.1 f.1 ∧ R e.2 f.2) as (readEntries stop as)
      (readEntries stop' bs) := by
  rcases fork.nextIs_cases (m := .closeBrace) (by decide) hbang with ⟨more, more'⟩ | ⟨close, close', _⟩
  · rw [readEntries_entry more, readEntries_entry more']
    refine Alongside.bind (ih.expression 0 fork (by omega)) fun k k' cs ds _ _ key rest shorter => ?_
    refine Alongside.bind (expect_alongside (by decide) hbang rest) fun _ _ cs ds _ _ _ rest shorter => ?_
    refine Alongside.bind (ih.expression 0 rest (by omega)) fun x y cs ds _ _ value rest shorter => ?_
    dsimp only
    rcases rest.nextIs_cases (m := .comma) (by decide) hbang with ⟨other, other'⟩ | ⟨comma, comma', behind⟩
    · rw [other, other', if_neg Bool.false_ne_true, if_neg Bool.false_ne_true]
      exact .done (.cons ⟨key, value⟩ .nil) rest
    · have length := length_drop_of_nextIs comma
      rw [comma, comma', if_pos rfl, if_pos rfl]
      refine Alongside.longer (Alongside.bind (ih.entries behind (by omega)) ?_) (by omega)
      intro es fs cs ds _ _ others rest _
      exact .done (.cons ⟨key, value⟩ others) rest
  · rw [readEntries_close close, readEntries_close close']
    exact .done .nil fork

end

section

variable {R : Expr → Expr → Prop} (compatible : Expr.Compatible R) {stop stop' : Nat}
  (hbang : bang.token = .mark .bang)
  (hbody : ∀ {c c'}, R c c' → Alongside bang us vs R [] (readEach stop c us) (readEach stop' c' vs))

include compatible hbang hbody

theorem alongsideAll : ∀ n, AlongsideAll R bang us vs stop stop' n
  | 0 => by
      constructor <;> intros <;> omega
  | n + 1 =>
      have ih := alongsideAll n
      { expression := fun least fork h => expression_alongside ih fork least h
        operators := fun least fork hleft h =>
          operators_alongside compatible hbang hbody ih fork least hleft h
        operand := fun fork h => operand_alongside compatible hbang ih fork h
        infixed := fun op place fork hleft h =>
          infixed_alongside compatible hbang ih fork op place hleft h
        each := fun fork hleft h => each_alongside compatible hbang ih fork hleft h
        items := fun fork h => items_alongside hbang ih fork h
        entries := fun fork h => entries_alongside hbang ih fork h }

end

/-- **Trees are related if they differ in the body of a map only**, and the bodies are. If there is no tree,
there is none for the same cause. -/
theorem parse_fork {R : Expr → Expr → Prop} (compatible : Expr.Compatible R) {whole whole' : Span}
    (hbang : bang.token = .mark .bang)
    (hbody : ∀ {c c'}, R c c' →
      Alongside bang us vs R [] (readEach whole.stop c us) (readEach whole'.stop c' vs))
    (fork : Fork bang us vs as bs) :
    Parallel (fun _ _ => True) R (parse as whole) (parse bs whole') := by
  have read := (alongsideAll compatible hbang hbody _).expression 0 fork (Nat.le_refl _)
  have empty : bs.isEmpty = as.isEmpty := by
    cases fork with
    | nil => rfl
    | here => rfl
    | cons _ _ => rfl
  unfold parse
  rw [empty]
  split
  · exact .error rfl rfl trivial
  · refine Parallel.bind read fun found found' related => ?_
    obtain ⟨x, rest⟩ := found
    obtain ⟨y, rest'⟩ := found'
    obtain ⟨value, rest, _⟩ := related
    cases rest with
    | nil => exact .ok value
    -- the first token that is left over is the same one
    | here | cons _ _ =>
        dsimp only
        split
        · split
          · exact .error rfl rfl trivial
          · exact .error rfl rfl trivial
        · exact .error rfl rfl trivial

end Parser

end Fiction
