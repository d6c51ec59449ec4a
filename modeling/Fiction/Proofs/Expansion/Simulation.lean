import Fiction.Proofs.Expansion.Deferred
import Fiction.Proofs.Expansion.Links
import Fiction.Proofs.Expr.Shift
import Fiction.Proofs.Markup.Alike

/-!
# Fiction.Proofs.Expansion.Simulation

**One induction over all of expansion.** Expressions, markup, links, maps, inclusions and the calls of
the library expand each other, and each of them takes the caller as a parameter.
`Simulation Rel clean placed commands s s'` collects what has to be known of a relation between
computations in two settings so that all of them keep it: if two callers are related on corresponding
calls, then so is all that is built on them.

* Values and sequences are related, and so are failures for the same cause at corresponding places.
* Computations that borrow something are related, and so are inclusions.
* Writing is related to itself, if a call that writes can be reached at all.

The relation may depend on the text at hand, and only an inclusion turns to another one. The texts on
the two sides need not be the same, nor stand at the same positions: `clean` says which of their
fragments correspond and `placed` says which of their ranges do, as in `Matching`. All that is expanded
is a part of the input or of a node, never a value that was computed; so if these correspond, only
corresponding calls run. The commands of links are checked and not run, so they may be different, as far
as `commands` allows.

`related_dispatch` is the result. What a call is, and what becomes of its level, is left to the two
settings that are compared.
-/

namespace Fiction

/-- Calls of the library that write variables or draw from chance. -/
def Builtin.changesState : Builtin → Bool
  | .set | .add | .invert | .random | .plus | .minus => true
  | .eval | .text | .lookup | .context | .branch | .once | .again | .count | .list => false

/-- Two nodes: the same fixed text, or markup that is related. -/
inductive NodeBody.Alike (markup : String → String → Prop) : NodeBody → NodeBody → Prop
  | fixed {content : String} {links links' : List Successor} :
      Alike markup (.fixed content links) (.fixed content links')
  | markup {content content' : String} : markup content content' →
      Alike markup (.markup content) (.markup content')

/-- A call of which two shifts correspond. -/
def Call.Twin (clean : Fragment → Fragment → Prop) (a b : Nat) (c : Call) : Prop :=
  (c.shift a).Alike clean (c.shift b)

/-- A token of whose call two shifts correspond. -/
def Token.Twin (clean : Fragment → Fragment → Prop) (a b : Nat) : Token → Prop :=
  Token.All (Call.Twin clean a b) fun _ => True

/-- A range of which two shifts correspond. -/
def Span.Twin (placed : Span → Span → Prop) (a b : Nat) (s : Span) : Prop :=
  placed (s.shift a) (s.shift b)

theorem Matching.twin_join {clean : Fragment → Fragment → Prop} {placed : Span → Span → Prop}
    (matching : Matching clean placed) {a b : Nat} {s t : Span} (hs : s.Twin placed a b)
    (ht : t.Twin placed a b) : (s.join t).Twin placed a b := by
  rw [Span.Twin, ← Span.join_shift, ← Span.join_shift]
  exact matching.join hs ht

namespace Expansion

/-! ## What computations can return -/

section

variable {α : Type} {s : Setting}

/-- In a setting, some run of `x` returns `a`. -/
def Returns (s : Setting) (x : Expansion α) (a : α) : Prop :=
  ∃ p, (x.runIn s p).1 = .ok a

/-- Nothing runs behind a flaw, so nothing has to be known of it. -/
theorem not_returns_flaw {flaw : Flaw} {a : α} : ¬ Returns s (ofFlaw (.error flaw)) a := by
  rintro ⟨p, hp⟩
  cases hp

theorem not_returns_fail {cause : Cause} {span : Span} {a : α} :
    ¬ Returns s (fail cause span) a := by
  rintro ⟨p, hp⟩
  cases hp

end

/-! ## Simulations -/

/-- Writing variables and drawing from chance are related to themselves. -/
structure Writes (Rel : ∀ ⦃α : Type⦄, Expansion α → Expansion α → Prop) : Prop where
  change : ∀ {α : Type} (path : Path) (f : Store → Outcome α × Store),
    Rel (change path f) (change path f)
  draw : ∀ {α : Type} (f : Chance → α × Chance), Rel (draw f) (draw f)

/-- What makes all of expansion keep a relation between a computation in one setting and a computation
in another, with a text at hand. -/
structure Simulation (Rel : Source → ∀ ⦃α : Type⦄, Expansion α → Expansion α → Prop)
    (clean : Source → Fragment → Fragment → Prop) (placed : Source → Span → Span → Prop)
    (commands : Source → List Command → List Command → Prop) (s s' : Setting) : Prop where
  /-- The same calls are there. -/
  library : s'.library = s.library
  /-- Parts of fragments that correspond do so. -/
  matching : ∀ {source}, Matching (clean source) (placed source)
  /-- The same commands are related. -/
  commands_refl : ∀ {source} cs, commands source cs cs
  /-- The same nodes are there, with texts that correspond. -/
  nodes : ∀ name, Option.Rel
    (NodeBody.Alike fun content content' =>
      Scanned (clean ⟨name, content⟩) (placed ⟨name, content⟩) (commands ⟨name, content⟩)
        (Markup.scan (.ofString content)) (Markup.scan (.ofString content')))
    (s.story.node? name) (s'.story.node? name)
  /-- A value is related to itself. -/
  value : ∀ {source} {α : Type} (a : α), Rel source (pure a) (pure a)
  /-- Failures for one cause at corresponding places are related. -/
  flaw : ∀ {source} {α : Type} {flaw flaw' : Flaw}, flaw'.cause = flaw.cause →
    flaw'.call = flaw.call → placed source flaw.span flaw'.span →
    Rel source (ofFlaw (.error flaw) : Expansion α) (ofFlaw (.error flaw'))
  /-- The same names and the same playthrough are seen. -/
  state : ∀ {source} {β : Type} {f g : Scope → World → Expansion β},
    (∀ scope world, Rel source (f scope world) (g scope world)) →
    Rel source (get >>= fun p => f p.scope p.world) (get >>= fun p => g p.scope p.world)
  /-- What is chosen by the settings. -/
  setting : ∀ {source} {β : Type} {f g : Setting → Expansion β}, Rel source (f s) (g s') →
    Rel source (read >>= f) (read >>= g)
  /-- Sequences, where the second parts are given what the first part can return. -/
  sequence : ∀ {source} {α β : Type} {x y : Expansion α} {f g : α → Expansion β}, Rel source x y →
    (∀ a, Returns s x a → Rel source (f a) (g a)) → Rel source (x >>= f) (y >>= g)
  /-- Links may be recorded. -/
  link : ∀ {source} {label target : String} {context : List Value} {cs cs' : List Command},
    commands source cs cs' → Rel source
      (do
        addLink ⟨label, target, context, cs, (← get).source.name⟩
        return label)
      (do
        addLink ⟨label, target, context, cs', (← get).source.name⟩
        return label)
  /-- If a call that changes the state can be reached, the relation allows for it. -/
  changes : ∀ {source offset offset' name b}, s.library.find? name = some b →
    clean source ⟨offset, callHead name⟩ ⟨offset', callHead name⟩ → b.changesState = true →
    Writes (Rel source)
  /-- A map drops the bindings it pushed. -/
  element : ∀ {source} {α : Type} {x y : Expansion α} {frame : Mapping Value}, Rel source x y →
    Rel source (borrowing (·.push frame) (fun p _ => p.pop) x)
      (borrowing (·.push frame) (fun p _ => p.pop) y)
  /-- An inclusion turns to the text of a node. It gives back text and scope, drops its links and notes
  the node if it fails. -/
  inclusion : ∀ {source} {α : Type} {x y : Expansion α} {name content content' : String}
    {context : List Value}, s.story.node? name = some (.markup content) →
    s'.story.node? name = some (.markup content') → Rel ⟨name, content⟩ x y →
    Rel source
      (mapFault (·.inNode name) (borrowing (·.enter ⟨name, content⟩ context) Progress.leave x))
      (mapFault (·.inNode name) (borrowing (·.enter ⟨name, content'⟩ context) Progress.leave y))

namespace Simulation

variable {Rel : Source → ∀ ⦃α : Type⦄, Expansion α → Expansion α → Prop}
  {clean : Source → Fragment → Fragment → Prop} {placed : Source → Span → Span → Prop}
  {commands : Source → List Command → List Command → Prop} {s s' : Setting}
  (rule : Simulation Rel clean placed commands s s') {α β : Type} {source : Source}

include rule

/-- Failing is having a flaw. -/
theorem related_fail (cause : Cause) {span span' : Span} (h : placed source span span') :
    Rel source (fail cause span : Expansion α) (fail cause span') :=
  have failed : Rel source (ofFlaw (.error (.of cause span)) : Expansion α)
      (ofFlaw (.error (.of cause span'))) :=
    rule.flaw rfl rfl h
  failed

theorem related_resolve (path : Path) : Rel source (resolve path) (resolve path) :=
  rule.state (f := fun scope world => pure (scope.resolve world.store path))
    (g := fun scope world => pure (scope.resolve world.store path)) fun _ _ => rule.value _

/-- Going on with what two scanners or parsers find. -/
theorem related_withFlaw {V : α → α → Prop} {y y' : Except Flaw α} {f g : α → Expansion β}
    (h : Parallel (placed source) V y y') (hf : ∀ a b, V a b → Rel source (f a) (g b)) :
    Rel source (ofFlaw y >>= f) (ofFlaw y' >>= g) := by
  cases h with
  | ok value => exact hf _ _ value
  -- nothing runs behind a failure
  | error cause call place =>
      exact rule.sequence (rule.flaw cause call place) fun _ h => absurd h not_returns_flaw

theorem related_ofFlaw {y y' : Except Flaw α} (h : Parallel (placed source) Eq y y') :
    Rel source (ofFlaw y) (ofFlaw y') := by
  cases h with
  | ok value => exact value ▸ rule.value _
  | error cause call place => exact rule.flaw cause call place

theorem related_ofOutcome {span span' : Span} (h : placed source span span') (y : Outcome α) :
    Rel source (ofOutcome span y) (ofOutcome span' y) := by
  cases y with
  | ok a => exact rule.value a
  | error cause => exact rule.related_fail cause h

theorem related_mapM {γ γ' : Type} {R : γ → γ' → Prop} {f : γ → Expansion β} {g : γ' → Expansion β}
    {xs : List γ} {ys : List γ'} (hxs : List.Forall₂ R xs ys)
    (h : ∀ a b, R a b → Rel source (f a) (g b)) : Rel source (xs.mapM f) (ys.mapM g) := by
  induction hxs with
  | nil =>
      rw [List.mapM_nil, List.mapM_nil]
      exact rule.value []
  | cons first _ ih =>
      rw [List.mapM_cons, List.mapM_cons]
      refine rule.sequence (h _ _ first) fun b _ => ?_
      exact rule.sequence ih fun bs _ => rule.value _

/-! ## Maps -/

section

variable {body body' : Expansion Value} (hbody : Rel source body body')

include hbody

theorem related_runBody (whole element key : Value) :
    Rel source (runBody body whole element key) (runBody body' whole element key) :=
  rule.element hbody

theorem related_eachItem (whole : Value) (index : Nat) (items : List Value) :
    Rel source (eachItem body whole index items) (eachItem body' whole index items) := by
  induction items generalizing index with
  | nil => exact rule.value []
  | cons v rest ih =>
      refine rule.sequence (rule.related_runBody hbody _ _ _) fun result _ => ?_
      exact rule.sequence (ih _) fun _ _ => rule.value _

theorem related_eachEntry (whole : Value) (entries : List (String × Value)) :
    Rel source (eachEntry body whole entries) (eachEntry body' whole entries) := by
  induction entries with
  | nil => exact rule.value []
  | cons entry rest ih =>
      obtain ⟨key, v⟩ := entry
      refine rule.sequence (rule.related_runBody hbody _ _ _) fun result _ => ?_
      exact rule.sequence ih fun _ _ => rule.value _

/-- Maps fail at the range of the collection and nowhere else of their own accord. -/
theorem related_mapEach (whole : Value) {span span' : Span} (hspan : placed source span span') :
    Rel source (mapEach body whole span) (mapEach body' whole span') := by
  unfold mapEach
  split
  · exact rule.sequence (rule.related_eachItem hbody _ _ _) fun _ _ => rule.value _
  · exact rule.sequence (rule.related_eachEntry hbody _ _) fun _ _ => rule.value _
  · exact rule.related_fail _ hspan

end

/-- Which of the operands runs depends on what is folded. -/
theorem related_reduceValue {op : Operator} {place place' : Span} {seed seed' : Expansion Value}
    {signed signed' : Option (Expansion Value)} (folded : Value)
    (hplace : placed source place place') (hseed : Rel source seed seed')
    (hsigned : Option.Rel (fun x y => Rel source x y) signed signed') :
    Rel source (reduceValue op place folded seed signed)
      (reduceValue op place' folded seed' signed') := by
  cases folded with
  -- a list is folded from the seed, and the operand with its sign is not looked at
  | list items =>
      cases hsigned with
      | none => exact rule.sequence hseed fun _ _ => rule.related_ofOutcome hplace _
      | some _ => exact rule.sequence hseed fun _ _ => rule.related_ofOutcome hplace _
  | _ =>
      cases hsigned with
      | none => exact rule.sequence hseed fun _ _ => rule.related_fail _ hplace
      | some operand => exact rule.sequence operand fun _ _ => rule.related_ofOutcome hplace _

/-! ## Expressions -/

section

variable {deferred deferred' : Caller} {a b : Nat}

/-- Lists keep what their items keep. -/
theorem related_evalItems {items : List Expr}
    (h : ∀ x ∈ items, Rel source (evalExpr deferred (x.shift a)) (evalExpr deferred' (x.shift b))) :
    Rel source (evalItems deferred (Expr.shiftItems a items))
      (evalItems deferred' (Expr.shiftItems b items)) := by
  induction items with
  | nil => exact rule.value _
  | cons x rest ih =>
      rw [Expr.shiftItems, Expr.shiftItems]
      refine rule.sequence (h x List.mem_cons_self) fun _ _ => ?_
      exact rule.sequence (ih fun y hy => h y (List.mem_cons_of_mem _ hy)) fun _ _ => rule.value _

/-- Mappings keep what their keys and values keep, and fail at the ranges of keys. -/
theorem related_evalEntries {entries : List (Expr × Expr)}
    (hspans : ∀ entry ∈ entries, Span.Twin (placed source) a b entry.1.span)
    (hkeys : ∀ entry ∈ entries,
      Rel source (evalExpr deferred (entry.1.shift a)) (evalExpr deferred' (entry.1.shift b)))
    (hvalues : ∀ entry ∈ entries,
      Rel source (evalExpr deferred (entry.2.shift a)) (evalExpr deferred' (entry.2.shift b))) :
    Rel source (evalEntries deferred (Expr.shiftEntries a entries))
      (evalEntries deferred' (Expr.shiftEntries b entries)) := by
  induction entries with
  | nil => exact rule.value _
  | cons entry rest ih =>
      obtain ⟨k, x⟩ := entry
      obtain ⟨span, spans⟩ := List.forall_mem_cons.mp hspans
      obtain ⟨key, keys⟩ := List.forall_mem_cons.mp hkeys
      obtain ⟨value, values⟩ := List.forall_mem_cons.mp hvalues
      rw [Expr.shiftEntries, Expr.shiftEntries, evalEntries, evalEntries, k.span_shift, k.span_shift]
      refine rule.sequence key fun _ _ => ?_
      split
      · refine rule.sequence value fun _ _ => ?_
        exact rule.sequence (ih spans keys values) fun _ _ => rule.value _
      · exact rule.related_fail _ span

end

/-! From here on there are two callers, which are related on corresponding calls. -/

variable {call call' : Caller}
  (hcall : ∀ source c c', c.Alike (clean source) c' → Rel source (call c) (call' c'))

include hcall

/-- Going on with tokens whose calls were expanded. None is there that was not, and no range has
changed. -/
theorem related_expandCalls {a b : Nat} {tokens : List Lexeme} (afterBang : Bool)
    (h : ∀ t ∈ tokens, t.All (Token.Twin (clean source) a b) (Span.Twin (placed source) a b))
    {f g : List Lexeme → Expansion β}
    (hf : ∀ out : List Lexeme,
      (∀ t ∈ out, t.All (Token.Twin (clean source) a b) (Span.Twin (placed source) a b)) →
      Rel source (f (out.map (·.shift a))) (g (out.map (·.shift b)))) :
    Rel source (expandCalls call afterBang (tokens.map (·.shift a)) >>= f)
      (expandCalls call' afterBang (tokens.map (·.shift b)) >>= g) := by
  induction tokens generalizing afterBang f g with
  | nil => exact hf [] h
  | cons lexeme rest ih =>
      obtain ⟨first, hrest⟩ := List.forall_mem_cons.mp h
      -- what follows once the token is known
      have behind (l : Lexeme)
          (hl : l.All (Token.Twin (clean source) a b) (Span.Twin (placed source) a b)) : Rel source
          (expandCalls call (l.token.isMark .bang) (rest.map (·.shift a)) >>= fun out =>
            f (l.shift a :: out))
          (expandCalls call' (l.token.isMark .bang) (rest.map (·.shift b)) >>= fun out =>
            g (l.shift b :: out)) :=
        ih _ hrest fun out hout => hf (l :: out) (List.forall_mem_cons.mpr ⟨hl, hout⟩)
      obtain ⟨token, range⟩ := lexeme
      cases token with
      | call c =>
          cases afterBang with
          | false =>
              have run := hcall source _ _ (first.token)
              have value (v : Value) : Lexeme.All (Token.Twin (clean source) a b)
                  (Span.Twin (placed source) a b) ⟨.value v, range⟩ :=
                ⟨trivial, first.span⟩
              simp only [List.map_cons, Lexeme.shift, Token.shift, expandCalls, bind_assoc, pure_bind]
              exact rule.sequence run fun v _ => behind ⟨.value v, range⟩ (value v)
          -- behind `!` it stays a call
          | true =>
              simp only [List.map_cons, Lexeme.shift, Token.shift, expandCalls, bind_assoc, pure_bind]
              exact behind ⟨.call c, range⟩ first
      | _ =>
          simp only [List.map_cons, Lexeme.shift, Token.shift, expandCalls, bind_assoc, pure_bind]
          exact behind _ first

/-- Trees run only the calls they hold, and fail only at their ranges. -/
theorem related_evalExpr {a b : Nat} {e : Expr}
    (h : e.All (Token.Twin (clean source) a b) (Span.Twin (placed source) a b)) :
    Rel source (evalExpr call (e.shift a)) (evalExpr call' (e.shift b)) := by
  induction h with
  | literal => exact rule.value _
  | lookup hspan => exact rule.sequence (rule.related_resolve _) fun _ _ => rule.related_ofOutcome hspan _
  | list _ _ ih => exact rule.sequence (rule.related_evalItems ih) fun _ _ => rule.value _
  | mapping _ hkeys _ ihKeys ihValues =>
      have entries := rule.related_evalEntries (fun entry h => (hkeys entry h).span) ihKeys ihValues
      exact rule.sequence entries fun _ _ => rule.value _
  | unary hspan _ ih => exact rule.sequence ih fun _ _ => rule.related_ofOutcome hspan _
  | @binary _ op _ _ _ _ hplace _ _ left right =>
      rw [Expr.shift, Expr.shift]
      cases op with
      -- the right side runs only if the left one does not settle the value
      | and =>
          refine rule.sequence left fun v _ => ?_
          split
          · exact right
          · exact rule.value _
      | or =>
          refine rule.sequence left fun v _ => ?_
          split
          · exact rule.value _
          · exact right
      | _ =>
          refine rule.sequence left fun _ _ => ?_
          exact rule.sequence right fun _ _ => rule.related_ofOutcome hplace _
  | ternary _ hplace _ _ _ left middle right =>
      rw [Expr.shift, Expr.shift]
      refine rule.sequence left fun _ _ => rule.sequence middle fun _ _ => ?_
      exact rule.sequence right fun _ _ => rule.related_ofOutcome hplace _
  | index hspan _ _ target index =>
      rw [Expr.shift, Expr.shift]
      refine rule.sequence target fun _ _ => ?_
      exact rule.sequence index fun _ _ => rule.related_ofOutcome hspan _
  | @reduce _ _ _ _ _ signed _ hplace _ _ _ left seed operand =>
      cases signed with
      | none =>
          rw [Expr.shift, Expr.shift]
          refine rule.sequence left fun folded _ => ?_
          exact rule.related_reduceValue folded hplace seed .none
      | some x =>
          rw [Expr.shift, Expr.shift]
          refine rule.sequence left fun folded _ => ?_
          exact rule.related_reduceValue folded hplace seed (.some (operand x rfl))
  | @each _ c _ _ hc _ collection body =>
      rw [Expr.shift, Expr.shift, evalExpr, evalExpr, c.span_shift, c.span_shift]
      exact rule.sequence collection fun whole _ => rule.related_mapEach body whole hc.span
  | @eachCall _ c _ _ hc body collection =>
      rw [Expr.shift, Expr.shift, evalExpr, evalExpr, c.span_shift, c.span_shift]
      refine rule.sequence collection fun whole _ => ?_
      exact rule.related_mapEach (hcall source _ _ body) whole hc.span

/-- The values of corresponding fragments. Both are shifts of one fragment, so their tokens and trees
are shifts of the same ones. -/
theorem related_evaluate {f f' : Fragment} (hf : clean source f f') :
    Rel source (evaluate call f) (evaluate call' f') := by
  obtain ⟨base, a, b, rfl, rfl⟩ := rule.matching.exists_shift hf
  have lexed : Sound (Span.Twin (placed source) a b)
      (fun tokens => ∀ t ∈ tokens, t.All (Token.Twin (clean source) a b) (Span.Twin (placed source) a b))
      (Lexer.tokens base) :=
    (Lexer.tokens_sound base).mono (fun _ h => rule.matching.within hf h) fun _ h t ht =>
      (h t ht).mono (fun _ h => h.mono (fun _ h => rule.matching.call hf h) fun _ _ => trivial)
        fun _ h => rule.matching.within hf h
  rw [evaluate_eq, evaluate_eq]
  unfold evaluateWith
  rw [Lexer.tokens_shift, Lexer.tokens_shift, base.span_shift, base.span_shift]
  cases found : Lexer.tokens base with
  | error flaw =>
      exact rule.sequence (rule.flaw rfl rfl (lexed.of_error found)) fun _ h =>
        absurd h not_returns_flaw
  | ok tokens =>
      refine rule.related_expandCalls hcall false (lexed.of_ok found) fun expanded hexpanded => ?_
      have parsed : Sound (Span.Twin (placed source) a b)
          (Expr.All (Token.Twin (clean source) a b) (Span.Twin (placed source) a b))
          (Parser.parse expanded base.span) :=
        Parser.parse_sound (rule.matching.within hf (Fragment.PartOf.refl base).span_within)
          (rule.matching.within hf base.end_partOf.span_within) rule.matching.twin_join hexpanded
      rw [Parser.parse_shift, Parser.parse_shift]
      cases read : Parser.parse expanded base.span with
      | error flaw =>
          exact rule.sequence (rule.flaw rfl rfl (parsed.of_error read)) fun _ h =>
            absurd h not_returns_flaw
      | ok e => exact rule.related_evalExpr hcall (parsed.of_ok read)

/-! ## Markup -/

omit rule hcall in
/-- Recording a link. What it has for commands is found out last. -/
theorem recordLink_eq (call : Caller) (expand : Fragment → Expansion String) (l : LinkText) :
    recordLink call expand l = (do
      let label ← expand l.label.trim
      match l.target.splitTop .argument '&' with
      | [] => fail (.malformedLink .noTarget) l.span
      | targetPart :: contextParts =>
          let target := Text.trimString (← expand targetPart.trim)
          if target.isEmpty then fail (.malformedLink .emptyTarget) targetPart.span
          else
            let context ← contextParts.mapM (evaluate call)
            let commands ← ofFlaw l.commands
            addLink ⟨label, target, context, commands, (← get).source.name⟩
            return label) := by
  unfold recordLink LinkText.commands
  cases l.traversal with
  | none => rfl
  | some traversal => rfl

/-- Parts of links that correspond lead to links that do, but for their commands. -/
theorem related_recordLink {expand expand' : Fragment → Expansion String}
    (hexpand : ∀ f f', clean source f f' → Rel source (expand f) (expand' f')) {l l' : LinkText}
    (hl : l.Alike (clean source) (placed source) (commands source) l') :
    Rel source (recordLink call expand l) (recordLink call' expand' l') := by
  have trimmed {f f' : Fragment} (hf : clean source f f') :
      Rel source (expand f.trim) (expand' f'.trim) :=
    hexpand _ _ (rule.matching.trim hf)
  rw [recordLink_eq, recordLink_eq]
  refine rule.sequence (trimmed hl.label) fun label _ => ?_
  have parts := rule.matching.splitTop hl.target .argument '&'
  generalize l.target.splitTop .argument '&' = targetParts,
    l'.target.splitTop .argument '&' = targetParts' at parts ⊢
  cases parts with
  | nil => exact rule.related_fail _ hl.span
  | cons htarget hcontext =>
      dsimp only
      refine rule.sequence (trimmed htarget) fun target _ => ?_
      split
      · exact rule.related_fail _ (rule.matching.span htarget)
      · have values := rule.related_mapM hcontext fun _ _ h => rule.related_evaluate hcall h
        refine rule.sequence values fun context _ => ?_
        exact rule.related_withFlaw hl.commands fun _ _ related => rule.link related

/-- Segments correspond one by one: texts by their characters, calls and links by their parts. -/
theorem related_segments {expand expand' : Fragment → Expansion String}
    (hexpand : ∀ f f', clean source f f' → Rel source (expand f) (expand' f'))
    {parts parts' : List Segment}
    (h : List.Forall₂ (Segment.Alike (clean source) (placed source)
      (LinkText.Alike (clean source) (placed source) (commands source))) parts parts') :
    Rel source (segments call expand parts) (segments call' expand' parts') := by
  induction h with
  | nil => exact rule.value _
  | @cons segment segment' rest rest' head _ ih =>
      have behind (text : String) : Rel source
          (do
            let rest ← segments call expand rest
            return text ++ rest)
          (do
            let rest ← segments call' expand' rest'
            return text ++ rest) :=
        rule.sequence ih fun _ _ => rule.value _
      unfold segments
      cases head with
      | text same _ =>
          dsimp only
          rw [same]
          exact behind _
      | call alike => exact rule.sequence (hcall source _ _ alike) fun _ _ => behind _
      | link alike =>
          exact rule.sequence (rule.related_recordLink hcall hexpand alike) fun _ _ => behind _

/-- **Corresponding markup keeps the relation**, by induction on the bound for links. -/
theorem related_markup {f f' : Fragment} (hf : clean source f f') :
    Rel source (markup call f) (markup call' f') := by
  unfold markup
  rw [rule.matching.chars hf]
  generalize f.chars.length + 1 = n
  induction n generalizing f f' with
  | zero => exact rule.value _
  | succ n ih =>
      have scanned : Scanned (clean source) (placed source) (commands source) _ _ :=
        rule.matching.scan rule.commands_refl hf
      exact rule.related_withFlaw scanned fun _ _ alike =>
        rule.related_segments hcall (fun _ _ => ih) alike

/-- Two texts that are scanned into corresponding segments. They need not be the same themselves. -/
theorem related_scanned {f f' : Fragment}
    (h : Scanned (clean source) (placed source) (commands source) (Markup.scan f) (Markup.scan f')) :
    Rel source (markup call f) (markup call' f') := by
  rw [markup_eq, markup_eq]
  exact rule.related_withFlaw h fun _ _ alike =>
    rule.related_segments hcall (fun _ _ => rule.related_markup hcall) alike

theorem related_body {f f' : Fragment} (hf : clean source f f') :
    Rel source (body call f) (body call' f') :=
  rule.sequence (rule.related_markup hcall (rule.matching.inside hf)) fun _ _ => rule.value _

theorem related_pathArgument {f f' : Fragment} (hf : clean source f f') :
    Rel source (pathArgument call f) (pathArgument call' f') :=
  rule.sequence (rule.related_markup hcall (rule.matching.trim hf)) fun _ _ =>
    rule.related_ofOutcome (rule.matching.span hf) _

/-! ## The calls of the library -/

variable {c c' : Call} (hc : c.Alike (clean source) c')

include hc

omit hcall in
theorem call_placed : placed source c.span c'.span :=
  rule.matching.callSpan hc

omit hcall in
/-- Arguments correspond, also where there is none. -/
theorem argument_alike (index : Nat) : clean source (argument c index) (argument c' index) := by
  have found := forall₂_getElem? hc.args index
  unfold argument
  rw [List.getD_eq_getElem?_getD, List.getD_eq_getElem?_getD]
  generalize c.args[index]? = arg, c'.args[index]? = arg' at found ⊢
  cases found with
  | none => exact rule.matching.stop hc.source
  | some arg => exact arg

omit hcall in
theorem argument_placed (index : Nat) :
    placed source (argument c index).span (argument c' index).span :=
  rule.matching.span (rule.argument_alike hc index)

omit hcall in
theorem related_malformed (flaw : CallFlaw) :
    Rel source (malformed c flaw : Expansion α) (malformed c' flaw) := by
  unfold malformed
  rw [hc.name]
  exact rule.related_fail _ (rule.call_placed hc)

omit hcall in
theorem related_checkCount (expected : Nat) :
    Rel source (ofFlaw (Traversal.checkCount c expected))
      (ofFlaw (Traversal.checkCount c' expected)) :=
  rule.related_ofFlaw (Traversal.checkCount_parallel rule.matching hc expected)

omit hcall in
theorem related_checkArguments (verb : Verb) :
    Rel source (ofFlaw (Traversal.checkArguments verb c))
      (ofFlaw (Traversal.checkArguments verb c')) :=
  rule.related_ofFlaw (Traversal.checkArguments_parallel rule.matching verb hc)

/-- The argument at an index as an expression. -/
theorem related_evaluateArgument (index : Nat) :
    Rel source (evaluate call (argument c index)) (evaluate call' (argument c' index)) :=
  rule.related_evaluate hcall (rule.argument_alike hc index)

/-- The argument at an index as a path. -/
theorem related_pathOfArgument (index : Nat) :
    Rel source (pathArgument call (argument c index)) (pathArgument call' (argument c' index)) :=
  rule.related_pathArgument hcall (rule.argument_alike hc index)

theorem related_evalCall : Rel source (evalCall call c) (evalCall call' c') :=
  rule.sequence (rule.related_checkCount hc 1) fun _ _ => rule.related_evaluateArgument hcall hc 0

theorem related_textCall : Rel source (textCall call c) (textCall call' c') := by
  have parts : Rel source (c.args.mapM (body call)) (c'.args.mapM (body call')) :=
    rule.related_mapM hc.args fun _ _ h => rule.related_body hcall h
  exact rule.sequence parts fun _ _ => rule.value _

theorem related_lookupCall : Rel source (lookupCall call c) (lookupCall call' c') := by
  refine rule.sequence (rule.related_checkCount hc 1) fun _ _ => ?_
  refine rule.sequence (rule.related_pathOfArgument hcall hc 0) fun path _ => ?_
  refine rule.sequence (rule.related_resolve path) fun _ _ => ?_
  exact rule.related_ofOutcome (rule.argument_placed hc 0) _

theorem related_contextCall : Rel source (contextCall call c) (contextCall call' c') := by
  refine rule.sequence (rule.related_checkCount hc 1) fun _ _ => ?_
  refine rule.sequence (rule.related_evaluateArgument hcall hc 0) fun v _ => ?_
  split
  · next n _ =>
      split
      · exact rule.value _
      · exact rule.state
          (f := fun scope _ => pure (scope.surroundings.context.getD (n.toInt.toNat - 1) .null))
          (g := fun scope _ => pure (scope.surroundings.context.getD (n.toInt.toNat - 1) .null))
          fun _ _ => rule.value _
  · exact rule.related_fail _ (rule.argument_placed hc 0)

omit hcall hc in
/-- Whether a condition is `else` can be seen from its characters. -/
theorem isElse_alike {f f' : Fragment} (h : clean source f f') : isElse f' = isElse f := by
  rw [isElse, isElse, rule.matching.chars (rule.matching.trim h)]

omit hc in
theorem related_branches {args args' : List Fragment} {fallback fallback' : Option Fragment}
    (hargs : List.Forall₂ (clean source) args args')
    (hfallback : Option.Rel (clean source) fallback fallback') :
    Rel source (branches call fallback args) (branches call' fallback' args') := by
  fun_induction branches call fallback args generalizing args' fallback' with
  -- an `else` is put off, and the first one is what is left in the end
  | case1 fallback condition result rest isElse ih =>
      cases hargs with
      | cons hcondition behind =>
          cases behind with
          | cons hresult hrest =>
              rw [branches, if_pos (rule.isElse_alike hcondition ▸ isElse)]
              refine ih hrest ?_
              cases hfallback with
              | none => exact .some hresult
              | some first => exact .some first
  | case2 fallback condition result rest isElse ih =>
      cases hargs with
      | cons hcondition behind =>
          cases behind with
          | cons hresult hrest =>
              rw [branches, if_neg (rule.isElse_alike hcondition ▸ isElse)]
              refine rule.sequence (rule.related_evaluate hcall hcondition) fun v _ => ?_
              split
              · exact rule.related_body hcall hresult
              · exact ih hrest hfallback
  | case3 args result unpaired =>
      cases hfallback with
      | some first =>
          have last := rule.related_body hcall first
          cases hargs with
          | nil => exact last
          | cons _ behind =>
              cases behind with
              | nil => exact last
              | cons _ _ => exact (unpaired _ _ _ rfl).elim
  | case4 args unpaired =>
      cases hfallback with
      | none =>
          cases hargs with
          | nil => exact rule.value _
          | cons _ behind =>
              cases behind with
              | nil => exact rule.value _
              | cons _ _ => exact (unpaired _ _ _ rfl).elim

theorem related_branchCall : Rel source (branchCall call c) (branchCall call' c') := by
  unfold branchCall
  rw [forall₂_isEmpty hc.args, hc.args.length_eq]
  split
  · exact rule.related_malformed hc _
  · exact rule.related_branches hcall hc.args .none

/-- Both sides see the same visits. -/
theorem related_visitCall (first : Bool) :
    Rel source (visitCall call first c) (visitCall call' first c') := by
  refine rule.sequence (rule.related_checkCount hc 1) fun _ _ => ?_
  refine rule.state
    (f := fun scope _ => if scope.surroundings.once == first then body call (argument c 0)
      else return .null)
    (g := fun scope _ => if scope.surroundings.once == first then body call' (argument c' 0)
      else return .null) fun _ _ => ?_
  split
  · exact rule.related_body hcall (rule.argument_alike hc 0)
  · exact rule.value _

/-! ### The inventory -/

omit hcall hc in
/-- Going on with a variable that has to hold a mapping. -/
theorem related_withTable {f g : Mapping Value → Expansion β} {name : String} {span span' : Span}
    (hspan : placed source span span') (hf : ∀ m, Rel source (f m) (g m)) :
    Rel source (table name >>= fun m => ofOutcome span m >>= f)
      (table name >>= fun m => ofOutcome span' m >>= g) := by
  have found : Rel source (table name) (table name) := by
    refine rule.sequence (rule.related_resolve _) fun value _ => ?_
    split
    · exact rule.value _
    · exact rule.value _
    · exact rule.value _
  refine rule.sequence found fun _ _ => ?_
  exact rule.sequence (rule.related_ofOutcome hspan _) fun m _ => hf m

/-- The argument at an index as an item or a category. -/
theorem related_selector (index : Nat) :
    Rel source (selector call c.args[index]?) (selector call' c'.args[index]?) := by
  have found := forall₂_getElem? hc.args index
  unfold selector
  generalize c.args[index]? = arg, c'.args[index]? = arg' at found ⊢
  cases found with
  | none => exact rule.value _
  | some arg =>
      dsimp only
      rw [rule.matching.isBlank arg]
      split
      · exact rule.value _
      · have text := rule.related_markup hcall (rule.matching.trim arg)
        exact rule.sequence text fun _ _ => rule.value _

theorem related_amount : Rel source (amount call c) (amount call' c') := by
  have found := forall₂_getElem? hc.args 1
  unfold amount
  generalize c.args[1]? = arg, c'.args[1]? = arg' at found ⊢
  cases found with
  | none => exact rule.value _
  | some arg =>
      dsimp only
      rw [rule.matching.isBlank arg]
      split
      · exact rule.value _
      · refine rule.sequence (rule.related_evaluate hcall arg) fun v _ => ?_
        split
        · exact rule.value _
        · exact rule.related_fail _ (rule.matching.span arg)

theorem related_itemArgument : Rel source (itemArgument call c) (itemArgument call' c') := by
  unfold itemArgument
  rw [forall₂_isEmpty hc.args, hc.args.length_eq]
  split
  · exact rule.related_malformed hc _
  · refine rule.sequence (rule.related_selector hcall hc 0) fun item _ => ?_
    split
    · exact rule.value _
    · exact rule.related_malformed hc _

theorem related_countCall : Rel source (countCall call c) (countCall call' c') := by
  have place := rule.call_placed hc
  unfold countCall
  rw [hc.args.length_eq]
  split
  · exact rule.related_malformed hc _
  · refine rule.sequence (rule.related_selector hcall hc 0) fun which _ => ?_
    refine rule.related_withTable place fun held => ?_
    split
    · exact rule.sequence (rule.related_ofOutcome place _) fun _ _ => rule.value _
    · split
      · refine rule.related_withTable place fun categories => ?_
        exact rule.sequence (rule.related_ofOutcome place _) fun _ _ => rule.value _
      · exact rule.value _

theorem related_listCall : Rel source (listCall call c) (listCall call' c') := by
  have place := rule.call_placed hc
  unfold listCall
  rw [hc.args.length_eq]
  split
  · exact rule.related_malformed hc _
  · refine rule.sequence (rule.related_selector hcall hc 0) fun which _ => ?_
    split
    · exact rule.related_withTable place fun _ => rule.related_withTable place fun _ =>
        rule.related_withTable place fun _ => rule.value _
    · split
      · exact rule.related_withTable place fun _ => rule.related_withTable place fun _ =>
          rule.related_withTable place fun _ => rule.value _
      · exact rule.sequence (rule.related_malformed hc _) fun _ h => absurd h not_returns_fail

/-! ### Calls that change the state -/

variable (hw : Writes (Rel source))

include hw

omit hcall in
/-- A change of what the first argument names. -/
theorem related_changeArgument (path : Path) (f : Store → Outcome α × Store) :
    Rel source
      (do
        let _ ← ofOutcome (argument c 0).span (← change path f)
        return Value.null)
      (do
        let _ ← ofOutcome (argument c' 0).span (← change path f)
        return Value.null) := by
  refine rule.sequence (hw.change path f) fun outcome _ => ?_
  have checked := rule.related_ofOutcome (rule.argument_placed hc 0) outcome
  exact rule.sequence checked fun _ _ => rule.value _

theorem related_setCall : Rel source (setCall call c) (setCall call' c') := by
  refine rule.sequence (rule.related_checkArguments hc .set) fun _ _ => ?_
  refine rule.sequence (rule.related_pathOfArgument hcall hc 0) fun path _ => ?_
  refine rule.sequence (rule.related_evaluateArgument hcall hc 1) fun value _ => ?_
  exact rule.related_changeArgument hc hw path _

theorem related_addCall : Rel source (addCall call c) (addCall call' c') := by
  refine rule.sequence (rule.related_checkArguments hc .add) fun _ _ => ?_
  refine rule.sequence (rule.related_pathOfArgument hcall hc 0) fun path _ => ?_
  refine rule.sequence (rule.related_evaluateArgument hcall hc 1) fun delta _ => ?_
  exact rule.related_changeArgument hc hw path _

theorem related_invertCall : Rel source (invertCall call c) (invertCall call' c') := by
  refine rule.sequence (rule.related_checkArguments hc .invert) fun _ _ => ?_
  refine rule.sequence (rule.related_pathOfArgument hcall hc 0) fun path _ => ?_
  exact rule.related_changeArgument hc hw path _

theorem related_randomCall : Rel source (randomCall call c) (randomCall call' c') := by
  have bad := rule.related_malformed hc (α := Value) .missingBounds
  have args := hc.args
  unfold randomCall
  generalize c.args = fragments, c'.args = fragments' at args ⊢
  cases args with
  | nil => exact bad
  | cons first behind =>
      have place := rule.matching.span first
      cases behind with
      | nil =>
          refine rule.sequence (rule.related_evaluate hcall first) fun v _ => ?_
          split
          · split
            · exact rule.related_fail _ place
            · exact rule.sequence (hw.draw _) fun _ _ => rule.value _
          · exact rule.related_fail _ place
      | cons second behind =>
          cases behind with
          | cons _ _ => exact bad
          | nil =>
              have place := rule.matching.join place (rule.matching.span second)
              refine rule.sequence (rule.related_evaluate hcall first) fun _ _ => ?_
              refine rule.sequence (rule.related_evaluate hcall second) fun _ _ => ?_
              split
              · split
                · exact rule.sequence (hw.draw _) fun _ _ => rule.value _
                · exact rule.related_fail _ place
              · exact rule.related_fail _ place

omit hcall in
theorem related_storeChange (path : Path) (operation : String) (left : Option Int64) :
    Rel source (storeChange c path operation left) (storeChange c' path operation left) := by
  have place := rule.call_placed hc
  have stored (left : Int64) : Rel source (storeCount path left) (storeCount path left) := by
    unfold storeCount
    split
    · exact hw.change path _
    · refine rule.sequence (hw.change path _) fun _ _ => ?_
      split
      · exact rule.value _
      · exact rule.value _
  unfold storeChange
  split
  · refine rule.sequence (stored _) fun _ _ => ?_
    exact rule.sequence (rule.related_ofOutcome place _) fun _ _ => rule.value _
  · exact rule.related_fail _ place

theorem related_plusCall : Rel source (plusCall call c) (plusCall call' c') := by
  refine rule.sequence (rule.related_itemArgument hcall hc) fun item _ => ?_
  refine rule.sequence (rule.related_amount hcall hc) fun n _ => ?_
  refine rule.sequence (rule.related_resolve _) fun found _ => ?_
  have stored (held : Int64) := rule.related_storeChange hc hw (itemPath item) "plus"
    (Integer.add? held n)
  split
  · exact stored _
  · split
    · exact stored _
    · exact rule.sequence (rule.related_fail _ (rule.call_placed hc)) fun _ h =>
        absurd h not_returns_fail

theorem related_minusCall : Rel source (minusCall call c) (minusCall call' c') := by
  refine rule.sequence (rule.related_itemArgument hcall hc) fun item _ => ?_
  refine rule.sequence (rule.related_amount hcall hc) fun n _ => ?_
  refine rule.sequence (rule.related_resolve _) fun found _ => ?_
  refine rule.sequence (rule.related_ofOutcome (rule.call_placed hc) _) fun held _ => ?_
  exact rule.related_storeChange hc hw _ _ _

/-! ## Dispatch -/

omit hw

/-- A call of the library is related to itself if the relation allows for what it changes. -/
theorem related_builtin {b : Builtin} (hb : b.changesState = true → Writes (Rel source)) :
    Rel source (builtin call c b) (builtin call' c' b) := by
  cases b with
  | set => exact rule.related_setCall hcall hc (hb rfl)
  | add => exact rule.related_addCall hcall hc (hb rfl)
  | invert => exact rule.related_invertCall hcall hc (hb rfl)
  | eval => exact rule.related_evalCall hcall hc
  | text => exact rule.related_textCall hcall hc
  | lookup => exact rule.related_lookupCall hcall hc
  | context => exact rule.related_contextCall hcall hc
  | branch => exact rule.related_branchCall hcall hc
  | once => exact rule.related_visitCall hcall hc true
  | again => exact rule.related_visitCall hcall hc false
  | random => exact rule.related_randomCall hcall hc (hb rfl)
  | count => exact rule.related_countCall hcall hc
  | list => exact rule.related_listCall hcall hc
  | plus => exact rule.related_plusCall hcall hc (hb rfl)
  | minus => exact rule.related_minusCall hcall hc (hb rfl)

theorem related_inclusionContext :
    Rel source (inclusionContext call c) (inclusionContext call' c') := by
  refine rule.related_mapM hc.args fun arg arg' harg => ?_
  rw [rule.matching.isBlank harg]
  split
  · exact rule.value _
  · exact rule.related_evaluate hcall harg

omit hc in
/-- Nodes are scanned into corresponding segments, whatever the call and its arguments are. -/
theorem related_inclusion {name : String} {node node' : NodeBody}
    (hnode : s.story.node? name = some node) (hnode' : s'.story.node? name = some node')
    (context : List Value) :
    Rel source (Expansion.inclusion call name node context)
      (Expansion.inclusion call' name node' context) := by
  have nodes := rule.nodes name
  rw [hnode, hnode'] at nodes
  cases nodes with
  | some alike =>
      cases alike with
      | fixed => exact rule.value _
      | markup scanned =>
          refine rule.inclusion hnode hnode' ?_
          exact rule.sequence (rule.related_scanned hcall scanned) fun _ _ => rule.value _

/-- **What a call stands for is related, if the calls it makes are.** -/
theorem related_dispatch : Rel source (dispatch call c) (dispatch call' c') := by
  refine rule.setting ?_
  rw [rule.library, hc.name]
  split
  · next b hb => exact rule.related_builtin hcall hc (rule.changes hb hc.head)
  · have nodes := rule.nodes c.name
    generalize hnode : s.story.node? c.name = node, hnode' : s'.story.node? c.name = node' at nodes ⊢
    cases nodes with
    | none => exact rule.related_fail _ (rule.call_placed hc)
    | some _ =>
        refine rule.sequence (rule.related_inclusionContext hcall hc) fun context _ => ?_
        exact rule.related_inclusion hcall hnode hnode' context

end Simulation

end Expansion

end Fiction
