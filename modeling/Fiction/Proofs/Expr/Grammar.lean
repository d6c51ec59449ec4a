import Fiction.Proofs.Expr.Enclosed

/-!
# Fiction.Proofs.Expr.Grammar

**The grammar of expressions.** `Spells` says which tokens make up an expression, without binding powers:
one rule for each way in which the parser builds a node, with the ranges that the node gets.

* `Expr.NodeOf` are the nodes of a tree, and `Expr.forall_nodeOf_iff` goes from a node to those below it.
* `Recognises` is what is known of something that was read: the tokens in front of what is left spell it.
  Also, a flaw of a path is that of a name among the tokens. `RecognisesAll` states this for all functions
  of the parser at once, by induction on three times the number of tokens.
* `spells_of_parse` and `misnamed_of_parse` are the results. What holds of all that is spelled holds of every
  tree, by one induction over the rules.
-/

namespace Fiction

/-! ## Nodes -/

namespace Expr

/-- The expressions directly below the top of an expression. -/
def children : Expr → List Expr
  | literal _ _ | lookup _ _ => []
  | list _ items => items
  | mapping _ entries => entries.flatMap fun entry => [entry.1, entry.2]
  | unary _ _ x => [x]
  | binary _ _ _ l r => [l, r]
  | ternary _ _ _ l m r => [l, m, r]
  | index _ t i => [t, i]
  | reduce _ _ _ l seed signed => l :: seed :: signed.toList
  | each _ c body => [c, body]
  | eachCall _ c _ => [c]

/-- The nodes of an expression: its top and those of the expressions below. -/
inductive NodeOf : Expr → Expr → Prop
  | top (e : Expr) : NodeOf e e
  | under {node child e : Expr} : child ∈ e.children → NodeOf node child → NodeOf node e

theorem children_withSpan (s : Span) (e : Expr) : (e.withSpan s).children = e.children := by
  cases e <;> rfl

/-- What holds of all nodes holds of the top and of all nodes below. -/
theorem forall_nodeOf_iff {P : Expr → Prop} {e : Expr} : (∀ node, NodeOf node e → P node) ↔
    P e ∧ ∀ child ∈ e.children, ∀ node, NodeOf node child → P node := by
  constructor
  · exact fun h => ⟨h e (.top e), fun child hchild node hnode => h node (.under hchild hnode)⟩
  · rintro ⟨top, below⟩ node hnode
    cases hnode with
    | top => exact top
    | under hchild hnode => exact below _ hchild node hnode

end Expr

/-- The leaves of a tree. -/
theorem Lexeme.cases_of_leaf? {lexeme : Lexeme} {x : Expr} (h : lexeme.leaf? = some x) :
    (∃ v, x = .literal lexeme.span v) ∨ ∃ path, x = .lookup lexeme.span path := by
  unfold Lexeme.leaf? at h
  split at h
  · exact .inl ⟨_, (Option.some.inj h).symm⟩
  · split at h
    · exact .inr ⟨_, (Option.some.inj h).symm⟩
    · cases h
  · exact .inr ⟨_, (Option.some.inj h).symm⟩
  · cases h

namespace Parser

variable {α β : Type} {lexeme : Lexeme} {tokens rest front : List Lexeme}

/-! ## The rules -/

/-- What the functions of the parser read. -/
inductive Phrase where
  | expression (e : Expr)
  | items (es : List Expr)
  | entries (es : List (Expr × Expr))

/-- Tokens that make up a phrase. -/
inductive Spells : List Lexeme → Phrase → Prop
  | leaf {lexeme : Lexeme} {x : Expr} : lexeme.leaf? = some x → Spells [lexeme] (.expression x)
  | sign {lexeme : Lexeme} {front : List Lexeme} {sign : Prefix} {x : Expr} :
      lexeme.token = sign.token → Spells front (.expression x) →
      Spells (lexeme :: front) (.expression (.unary (lexeme.span.join x.span) sign x))
  | paren {opening closing : Lexeme} {front : List Lexeme} {x : Expr} :
      opening.token = .mark .openParen → closing.token = .mark .closeParen →
      Spells front (.expression x) →
      Spells (opening :: front ++ [closing])
        (.expression (x.withSpan (opening.span.join closing.span)))
  | list {opening closing : Lexeme} {front : List Lexeme} {xs : List Expr} :
      opening.token = .mark .openBracket → closing.token = .mark .closeBracket →
      Spells front (.items xs) →
      Spells (opening :: front ++ [closing]) (.expression (.list (opening.span.join closing.span) xs))
  | mapping {opening closing : Lexeme} {front : List Lexeme} {es : List (Expr × Expr)} :
      opening.token = .mark .openBrace → closing.token = .mark .closeBrace →
      Spells front (.entries es) →
      Spells (opening :: front ++ [closing])
        (.expression (.mapping (opening.span.join closing.span) es))
  | index {opening closing : Lexeme} {front back : List Lexeme} {t i : Expr} :
      Spells front (.expression t) → opening.token = .mark .openBracket →
      closing.token = .mark .closeBracket → Spells back (.expression i) →
      Spells (front ++ opening :: back ++ [closing])
        (.expression (.index (t.span.join closing.span) t i))
  | each {bang : Lexeme} {front back : List Lexeme} {c body : Expr} :
      Spells front (.expression c) → bang.token = .mark .bang → Spells back (.expression body) →
      Spells (front ++ bang :: back) (.expression (.each (c.span.join body.span) c body))
  | eachCall {bang lexeme : Lexeme} {front : List Lexeme} {c : Expr} {call : Call} :
      Spells front (.expression c) → bang.token = .mark .bang → lexeme.token = .call call →
      Spells (front ++ [bang, lexeme]) (.expression (.eachCall (c.span.join lexeme.span) c call))
  | reduce {bar lexeme : Lexeme} {front back : List Lexeme} {fold : Operator} {l seed : Expr}
      {signed : Option Expr} :
      Spells front (.expression l) → bar.token = .operator .bar → lexeme.token = .operator fold →
      Spells back (.expression seed) → signed.isSome = (sign? fold).isSome →
      (∀ x ∈ signed, Spells (lexeme :: back) (.expression x)) →
      Spells (front ++ bar :: lexeme :: back) (.expression
        (.reduce (l.span.join seed.span) fold (bar.span.join lexeme.span) l seed signed))
  | binary {lexeme : Lexeme} {front back : List Lexeme} {op : Operator} {l r : Expr} :
      Spells front (.expression l) → lexeme.token = .operator op → Spells back (.expression r) →
      Spells (front ++ lexeme :: back)
        (.expression (.binary (l.span.join r.span) op lexeme.span l r))
  | ternary {lexeme tilde : Lexeme} {front middle back : List Lexeme} {op : Operator} {l m r : Expr} :
      Spells front (.expression l) → lexeme.token = .operator op → Spells middle (.expression m) →
      tilde.token = .mark .tilde → Spells back (.expression r) →
      Spells (front ++ lexeme :: (middle ++ tilde :: back))
        (.expression (.ternary (l.span.join r.span) op lexeme.span l m r))
  | noItems : Spells [] (.items [])
  | lastItem {front : List Lexeme} {x : Expr} :
      Spells front (.expression x) → Spells front (.items [x])
  | item {comma : Lexeme} {front back : List Lexeme} {x : Expr} {xs : List Expr} :
      Spells front (.expression x) → comma.token = .mark .comma → Spells back (.items xs) →
      Spells (front ++ comma :: back) (.items (x :: xs))
  | noEntries : Spells [] (.entries [])
  | lastEntry {colon : Lexeme} {front back : List Lexeme} {k x : Expr} :
      Spells front (.expression k) → colon.token = .mark .colon → Spells back (.expression x) →
      Spells (front ++ colon :: back) (.entries [(k, x)])
  | entry {colon comma : Lexeme} {front middle back : List Lexeme} {k x : Expr}
      {es : List (Expr × Expr)} :
      Spells front (.expression k) → colon.token = .mark .colon → Spells middle (.expression x) →
      comma.token = .mark .comma → Spells back (.entries es) →
      Spells (front ++ colon :: (middle ++ comma :: back)) (.entries ((k, x) :: es))

/-! ## What is known of something that was read -/

/-- A flaw of a path is that of a name among the tokens. -/
def Misnamed (tokens : List Lexeme) (flaw : Flaw) : Prop :=
  ∀ path, flaw.cause = .invalidPath path →
    ∃ lexeme ∈ tokens, ∃ s, lexeme.token = .name s ∧ Path.parse s = .error flaw.cause

/-- The tokens in front of those that are left have a property, together with what was read from them. -/
def Recognises (tokens : List Lexeme) (P : List Lexeme → α → Prop) : Except Flaw (Parsed α) → Prop :=
  Reads (Misnamed tokens) fun read => ∃ front, tokens = front ++ read.2 ∧ P front read.1

namespace Recognises

variable {P : List Lexeme → α → Prop} {Q : List Lexeme → β → Prop} {x : Except Flaw (Parsed α)}

theorem done {a : α} (h : P [] a) (tokens : List Lexeme) : Recognises tokens P (.ok (a, tokens)) :=
  ⟨[], rfl, h⟩

/-- A flaw that is not one of a path. -/
theorem flaw {flaw : Flaw} (h : ∀ path, flaw.cause ≠ .invalidPath path) :
    Recognises tokens P (.error flaw) :=
  fun path cause => absurd cause (h path)

theorem mono {P' : List Lexeme → α → Prop} (h : Recognises tokens P x)
    (hP : ∀ front a, P front a → P' front a) : Recognises tokens P' x :=
  Reads.mono h (fun _ h => h) fun _ ⟨front, split, hfront⟩ => ⟨front, split, hP _ _ hfront⟩

/-- A token in front that is passed over. -/
theorem skip (h : Recognises rest (fun front => P (lexeme :: front)) x) :
    Recognises (lexeme :: rest) P x := by
  refine Reads.mono h (fun flaw misnamed path cause => ?_) fun read ⟨front, split, hfront⟩ => ?_
  · obtain ⟨name, hname, found⟩ := misnamed path cause
    exact ⟨name, List.mem_cons_of_mem _ hname, found⟩
  · exact ⟨lexeme :: front, by rw [split, List.cons_append], hfront⟩

/-- Reading something else behind what was read. -/
theorem bind {f : Parsed α → Except Flaw (Parsed β)} (h : Recognises tokens P x)
    (hf : ∀ a front rest, tokens = front ++ rest → P front a →
      Recognises rest (fun back => Q (front ++ back)) (f (a, rest))) :
    Recognises tokens Q (x >>= f) := by
  refine Reads.bind h fun read ⟨front, split, hfront⟩ => ?_
  refine Reads.mono (hf read.1 front read.2 split hfront) (fun flaw misnamed path cause => ?_) ?_
  · obtain ⟨name, hname, found⟩ := misnamed path cause
    exact ⟨name, split ▸ List.mem_append_right front hname, found⟩
  · rintro again ⟨back, split', hback⟩
    exact ⟨front ++ back, by rw [split, split', List.append_assoc], hback⟩

end Recognises

theorem expect_recognises (stop : Nat) (mark : Mark) (what : String) (tokens : List Lexeme) :
    Recognises tokens (fun front span => ∃ lexeme, front = [lexeme] ∧ lexeme.token = .mark mark ∧
      span = lexeme.span) (expect stop mark what tokens) := by
  cases found : expect stop mark what tokens with
  | ok read =>
      obtain ⟨lexeme, rfl, token, span⟩ := exists_of_expect found
      exact ⟨[lexeme], rfl, lexeme, rfl, token, span⟩
  | error flaw =>
      refine .flaw fun path cause => ?_
      unfold expect at found
      split at found
      · split at found
        · cases found
        · cases found
          cases cause
      · split at found
        all_goals
          cases found
          cases cause

/-- A mark that was looked for and found is the next token. -/
theorem exists_of_nextIs {mark : Mark} (h : nextIs mark tokens = true) :
    ∃ lexeme rest, tokens = lexeme :: rest ∧ lexeme.token = .mark mark := by
  cases tokens with
  | nil => cases h
  | cons lexeme rest => exact ⟨lexeme, rest, rfl, isMark_iff.mp h⟩

/-- What the functions of the parser read from few tokens. Behind an expression, the tokens of that
expression are in front. -/
structure RecognisesAll (stop n : Nat) : Prop where
  expression : ∀ tokens least, 3 * tokens.length + 2 ≤ n →
    Recognises tokens (fun front e => Spells front (.expression e)) (readExpression stop least tokens)
  operators : ∀ tokens least {front left}, 3 * tokens.length + 1 ≤ n → Spells front (.expression left) →
    Recognises tokens (fun back e => Spells (front ++ back) (.expression e))
      (readOperators stop least left tokens)
  operand : ∀ tokens, 3 * tokens.length + 1 ≤ n →
    Recognises tokens (fun front e => Spells front (.expression e)) (readOperand stop tokens)
  infixed : ∀ tokens {front left} {lexeme : Lexeme} {op : Operator}, 3 * tokens.length + 3 ≤ n →
    Spells front (.expression left) → lexeme.token = .operator op →
    Recognises tokens (fun back e => Spells (front ++ lexeme :: back) (.expression e))
      (readInfixed stop left op lexeme.span tokens)
  each : ∀ tokens {front left} {bang : Lexeme}, 3 * tokens.length + 3 ≤ n →
    Spells front (.expression left) → bang.token = .mark .bang →
    Recognises tokens (fun back e => Spells (front ++ bang :: back) (.expression e))
      (readEach stop left tokens)
  items : ∀ tokens, 3 * tokens.length + 3 ≤ n →
    Recognises tokens (fun front es => Spells front (.items es)) (readItems stop tokens)
  entries : ∀ tokens, 3 * tokens.length + 3 ≤ n →
    Recognises tokens (fun front es => Spells front (.entries es)) (readEntries stop tokens)

section

variable {stop n : Nat} {left : Expr} (ih : RecognisesAll stop n)

include ih

theorem expression_recognises (least : Nat) (h : 3 * tokens.length + 2 ≤ n + 1) :
    Recognises tokens (fun front e => Spells front (.expression e))
      (readExpression stop least tokens) := by
  rw [readExpression_eq]
  refine (ih.operand tokens (by omega)).bind fun left front rest split hleft => ?_
  have length := congrArg List.length split
  rw [List.length_append] at length
  exact ih.operators rest least (by omega) hleft

theorem index_recognises (h : 3 * rest.length + 2 ≤ n) (hleft : Spells front (.expression left))
    (hopen : lexeme.token = .mark .openBracket) :
    Recognises rest (fun back e => Spells (front ++ lexeme :: back) (.expression e)) (do
      let index ← readExpression stop 0 rest
      let close ← expect stop .closeBracket "']'" index.2
      return (.index (left.span.join close.1) left index.1, close.2)) := by
  refine (ih.expression rest 0 h).bind fun index back after _ hindex => ?_
  refine (expect_recognises stop .closeBracket "']'" after).bind fun span _ after _ hclose => ?_
  obtain ⟨close, rfl, token, rfl⟩ := hclose
  refine .done ?_ after
  simpa using Spells.index hleft hopen token hindex

theorem operators_recognises (least : Nat) (h : 3 * tokens.length + 1 ≤ n + 1)
    (hleft : Spells front (.expression left)) :
    Recognises tokens (fun back e => Spells (front ++ back) (.expression e))
      (readOperators stop least left tokens) := by
  rcases ends_or_goesOn least tokens with ends | ⟨lexeme, rest, rfl, tight⟩
  · rw [readOperators_of_ends ends]
    exact .done (by rwa [List.append_nil]) tokens
  · rw [List.length_cons] at h
    rw [readOperators_step left tight]
    have step : Recognises rest (fun back e => Spells (front ++ lexeme :: back) (.expression e))
        (readStep stop left lexeme rest) := by
      unfold readStep
      rcases cases_of_goesOn tight with ⟨token, -⟩ | ⟨token, -⟩ | ⟨op, token, -⟩
      · rw [token]
        exact index_recognises ih (by omega) hleft token
      · rw [token]
        exact ih.each rest (by omega) hleft token
      · rw [token]
        exact ih.infixed rest (by omega) hleft token
    refine Recognises.skip (step.bind fun whole back after split hwhole => ?_)
    have length := congrArg List.length split
    rw [List.length_append] at length
    refine (ih.operators after least (by omega) hwhole).mono fun more e he => ?_
    simpa using he

theorem operand_recognises (h : 3 * tokens.length + 1 ≤ n + 1) :
    Recognises tokens (fun front e => Spells front (.expression e)) (readOperand stop tokens) := by
  cases tokens with
  | nil => exact .flaw nofun
  | cons lexeme rest =>
      rw [List.length_cons] at h
      rcases readOperand_cases lexeme with
        ⟨x, leaf⟩ | ⟨sign, token⟩ | token | token | token | ⟨flaw, misnamed, failed⟩
      · rw [readOperand_leaf leaf]
        exact .skip (.done (.leaf leaf) rest)
      · rw [readOperand_sign token]
        refine .skip ((ih.expression rest _ (by omega)).bind fun x front after _ hx => .done ?_ after)
        simpa using Spells.sign token hx
      · rw [readOperand_paren token]
        refine .skip ((ih.expression rest 0 (by omega)).bind fun x front after _ hx => ?_)
        refine (expect_recognises stop _ _ after).bind fun span _ after _ hclose => ?_
        obtain ⟨close, rfl, closing, rfl⟩ := hclose
        refine .done ?_ after
        simpa using Spells.paren token closing hx
      · rw [readOperand_list token]
        refine .skip ((ih.items rest (by omega)).bind fun xs front after _ hxs => ?_)
        refine (expect_recognises stop _ _ after).bind fun span _ after _ hclose => ?_
        obtain ⟨close, rfl, closing, rfl⟩ := hclose
        refine .done ?_ after
        simpa using Spells.list token closing hxs
      · rw [readOperand_mapping token]
        refine .skip ((ih.entries rest (by omega)).bind fun es front after _ hes => ?_)
        refine (expect_recognises stop _ _ after).bind fun span _ after _ hclose => ?_
        obtain ⟨close, rfl, closing, rfl⟩ := hclose
        refine .done ?_ after
        simpa using Spells.mapping token closing hes
      · rw [failed]
        intro path cause
        exact ⟨lexeme, List.mem_cons_self, misnamed path cause⟩

/-- The second reading of a reduction is spelled by the same tokens as the seed, with the sign in front. -/
theorem signedReading_spells {fold : Operator} {seed : Expr} {back after : List Lexeme}
    (h : 3 * (lexeme :: rest).length + 2 ≤ n) (hfold : lexeme.token = .operator fold)
    (split : rest = back ++ after)
    (hseed : readExpression stop Operator.bar.binding.2 rest = .ok (seed, after)) :
    (signedReading stop fold (lexeme :: rest) after).isSome = (sign? fold).isSome ∧
      ∀ x ∈ signedReading stop fold (lexeme :: rest) after,
        Spells (lexeme :: back) (.expression x) := by
  cases hsign : sign? fold with
  | none =>
      have absent : signedReading stop fold (lexeme :: rest) after = none := by
        rw [signedReading, hsign, Option.bind_none]
      rw [absent]
      refine ⟨rfl, fun x hx => ?_⟩
      cases hx
  | some sign =>
      obtain ⟨x, hx, signed⟩ := exists_signedReading hsign hfold hseed
      rw [signed]
      refine ⟨rfl, ?_⟩
      rintro _ ⟨⟩
      obtain ⟨front, split', hfront⟩ := (ih.expression _ _ h).of_ok hx
      rw [split, ← List.cons_append] at split'
      rwa [List.append_cancel_right split']

theorem infixed_recognises {op : Operator} (h : 3 * tokens.length + 3 ≤ n + 1)
    (hleft : Spells front (.expression left)) (hop : lexeme.token = .operator op) :
    Recognises tokens (fun back e => Spells (front ++ lexeme :: back) (.expression e))
      (readInfixed stop left op lexeme.span tokens) := by
  by_cases reduces : ∃ next rest fold, op = .bar ∧ tokens = next :: rest ∧ next.token = .operator fold
  · obtain ⟨next, rest, fold, rfl, rfl, token⟩ := reduces
    rw [readInfixed_reduce token]
    have bound := h
    rw [List.length_cons] at h
    have seed := ih.expression rest Operator.bar.binding.2 (by omega)
    cases hseed : readExpression stop Operator.bar.binding.2 rest with
    | error flaw =>
        rw [hseed] at seed
        exact .skip seed
    | ok read =>
        rw [hseed] at seed
        obtain ⟨back, split, hback⟩ := seed
        obtain ⟨both, second⟩ := signedReading_spells ih (by omega) token split hseed
        exact ⟨next :: back, by rw [split]; rfl, .reduce hleft hop token hback both second⟩
  · rw [readInfixed_operation]
    · refine (ih.expression tokens _ (by omega)).bind fun right middle after split hright => ?_
      have length := congrArg List.length split
      rw [List.length_append] at length
      dsimp only
      split
      · next third =>
          obtain ⟨tilde, behind, rfl, token⟩ := exists_of_nextIs (Bool.and_eq_true_iff.mp third).2
          rw [List.length_cons] at length
          refine .skip ((ih.expression behind _ (by omega)).bind fun x back after _ hx => .done ?_ after)
          simpa using Spells.ternary hleft hop hright token hx
      · refine .done ?_ after
        simpa using Spells.binary hleft hop hright
    · rintro rfl next hnext fold token
      obtain ⟨rest, rfl⟩ := List.head?_eq_some_iff.mp hnext
      exact reduces ⟨next, rest, fold, rfl, rfl, token⟩

theorem each_recognises (h : 3 * tokens.length + 3 ≤ n + 1) (hleft : Spells front (.expression left))
    (hbang : lexeme.token = .mark .bang) :
    Recognises tokens (fun back e => Spells (front ++ lexeme :: back) (.expression e))
      (readEach stop left tokens) := by
  by_cases called : ∃ next rest call, tokens = next :: rest ∧ next.token = .call call
  · obtain ⟨next, rest, call, rfl, token⟩ := called
    rw [readEach_call token]
    exact .skip (.done (.eachCall hleft hbang token) rest)
  · rw [readEach_body]
    · refine (ih.expression tokens _ (by omega)).bind fun body back after _ hbody => .done ?_ after
      simpa using Spells.each hleft hbang hbody
    · intro next hnext
      obtain ⟨rest, rfl⟩ := List.head?_eq_some_iff.mp hnext
      cases token : next.token with
      | call c => exact absurd ⟨next, rest, c, rfl, token⟩ called
      | _ => rfl

theorem items_recognises (h : 3 * tokens.length + 3 ≤ n + 1) :
    Recognises tokens (fun front es => Spells front (.items es)) (readItems stop tokens) := by
  cases close : nextIs .closeBracket tokens with
  | true =>
      rw [readItems_close close]
      exact .done .noItems tokens
  | false =>
      rw [readItems_item close]
      refine (ih.expression tokens 0 (by omega)).bind fun item front after split hitem => ?_
      have length := congrArg List.length split
      rw [List.length_append] at length
      dsimp only
      split
      · next found =>
          obtain ⟨comma, behind, rfl, token⟩ := exists_of_nextIs found
          rw [List.length_cons] at length
          refine .skip ((ih.items behind (by omega)).bind fun xs back after _ hxs => .done ?_ after)
          simpa using Spells.item hitem token hxs
      · refine .done ?_ after
        simpa using Spells.lastItem hitem

theorem entries_recognises (h : 3 * tokens.length + 3 ≤ n + 1) :
    Recognises tokens (fun front es => Spells front (.entries es)) (readEntries stop tokens) := by
  cases close : nextIs .closeBrace tokens with
  | true =>
      rw [readEntries_close close]
      exact .done .noEntries tokens
  | false =>
      rw [readEntries_entry close]
      refine (ih.expression tokens 0 (by omega)).bind fun key front after split hkey => ?_
      have behindKey := congrArg List.length split
      rw [List.length_append] at behindKey
      refine (expect_recognises stop _ _ after).bind fun span _ after split hcolon => ?_
      obtain ⟨colon, rfl, colonToken, -⟩ := hcolon
      have behindColon := congrArg List.length split
      rw [List.length_append] at behindColon
      refine (ih.expression after 0 (by omega)).bind fun value middle after split hvalue => ?_
      have behindValue := congrArg List.length split
      rw [List.length_append] at behindValue
      dsimp only
      split
      · next found =>
          obtain ⟨comma, behind, rfl, token⟩ := exists_of_nextIs found
          rw [List.length_cons] at behindValue
          refine .skip ((ih.entries behind (by omega)).bind fun es back after _ hes => .done ?_ after)
          simpa using Spells.entry hkey colonToken hvalue token hes
      · refine .done ?_ after
        simpa using Spells.lastEntry hkey colonToken hvalue

end

theorem recognisesAll (stop : Nat) : ∀ n, RecognisesAll stop n
  | 0 => by
      constructor <;> intros <;> omega
  | n + 1 =>
      have ih := recognisesAll stop n
      { expression := fun _ least h => expression_recognises ih least h
        operators := fun _ least _ _ h hleft => operators_recognises ih least h hleft
        operand := fun _ h => operand_recognises ih h
        infixed := fun _ _ _ _ _ h hleft hop => infixed_recognises ih h hleft hop
        each := fun _ _ _ _ h hleft hbang => each_recognises ih h hleft hbang
        items := fun _ h => items_recognises ih h
        entries := fun _ h => entries_recognises ih h }

/-! ## The whole -/

/-- **A tree is spelled by its tokens.** -/
theorem spells_of_parse {whole : Span} {e : Expr} (h : parse tokens whole = .ok e) :
    Spells tokens (.expression e) := by
  obtain ⟨front, split, hfront⟩ :=
    ((recognisesAll whole.stop _).expression tokens 0 (Nat.le_refl _)).of_ok (read_of_parse h)
  rw [List.append_nil] at split
  rwa [split]

/-- **If a path cannot be read, it is a name among the tokens.** -/
theorem misnamed_of_parse {whole : Span} {flaw : Flaw} (h : parse tokens whole = .error flaw) :
    Misnamed tokens flaw := by
  intro path cause
  unfold parse at h
  split at h
  · cases h
    cases cause
  · have read : Recognises tokens _ (expression whole.stop (depthFor tokens) 0 tokens) :=
      (recognisesAll whole.stop _).expression tokens 0 (Nat.le_refl _)
    cases found : expression whole.stop (depthFor tokens) 0 tokens with
    | error other =>
        rw [found] at h read
        cases h
        exact read path cause
    | ok result =>
        rw [found] at h
        obtain ⟨e, rest⟩ := result
        cases rest with
        | nil => cases h
        | cons extra rest =>
            dsimp only [bind, Except.bind] at h
            split at h
            · split at h
              all_goals
                cases h
                cases cause
            · cases h
              cases cause

end Parser

end Fiction
