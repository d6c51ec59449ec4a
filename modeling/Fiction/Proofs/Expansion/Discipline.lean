import Fiction.Proofs.Expansion.Deferred
import Fiction.Proofs.Markup.Nested
import Fiction.Proofs.Store.Closed
import Fiction.Proofs.Story.Command
import Fiction.Session

/-!
# Fiction.Proofs.Expansion.Discipline

**What expansion computes and how it fails.** Values keep every closed property, and expansion breaks
on markup only where a part of a text it reads has the flaw that shows.

* `Discipline` is a setting with a closed property of values and the texts that may be expanded.
* `Yields d source x Q` says that `x`, at work on a text, keeps the discipline, that what it returns
  satisfies `Q`, and that its failures are explained. The `Yields` rules are about the ways to build a
  computation.
* `callWith_yields`: calls keep the discipline. From it follow `markupTop_yields` and
  `runCommand_yields`.
-/

namespace Fiction

/-- What expansion is held to in a setting. -/
structure Discipline where
  setting : Setting
  /-- What holds of all values. -/
  good : Value → Prop
  closed : Value.Closed good
  /-- The texts that may be expanded. -/
  known : Source → Prop
  nodes : ∀ {name content}, setting.story.node? name = some (.markup content) →
    known ⟨name, content⟩

namespace Discipline

variable (d : Discipline) {source : Source} {part : Part}

/-- A part that is read when a known text is expanded. -/
structure Reads (source : Source) (part : Part) : Prop where
  known : d.known source
  nested : Relation.ReflTransGen (Nested d.setting.library) (.markup (.ofString source.text)) part

/-- A call in a part that is read. -/
def Calls (source : Source) (c : Call) : Prop :=
  ∃ part, d.Reads source part ∧ part.Holds c

/-- The arguments of a call are read as what its name stands for reads them. -/
def Arguments (source : Source) (b : Option Builtin) (c : Call) : Prop :=
  ∀ index arg, c.args[index]? = some arg → d.Reads source ((reading b index).part arg)

/-- A flaw of broken markup is one of a part that is read. -/
def Shows (source : Source) (flaw : Flaw) : Prop :=
  flaw.cause.isBrokenMarkup = true → ∃ part, d.Reads source part ∧ flaw ∈ part.flaws

/-- A fault of broken markup has cause and place from a part of its text that is read. -/
def Explains (fault : Fault) : Prop :=
  fault.cause.isBrokenMarkup = true → ∃ part flaw, d.Reads fault.source part ∧
    flaw ∈ part.flaws ∧ flaw.cause = fault.cause ∧ flaw.span = fault.span

/-- What expansion works on, at a text, has the property of values. -/
structure Holds (source : Source) (p : Progress) : Prop where
  scope : p.scope.All d.good
  store : d.good p.world.store.toValue
  source : p.source = source

variable {d}

/-- What is nested in a part that is read is read as well. -/
theorem Reads.step {next : Part} (h : d.Reads source part)
    (hnext : Nested d.setting.library part next) : d.Reads source next :=
  ⟨h.known, h.nested.tail hnext⟩

theorem Reads.calls {c : Call} (h : d.Reads source part) (hc : part.Holds c) : d.Calls source c :=
  ⟨part, h, hc⟩

/-- The arguments of a call are nested in the part that holds the call. -/
theorem Calls.arguments {c : Call} (h : d.Calls source c) :
    d.Arguments source (d.setting.library.find? c.name) c := by
  obtain ⟨part, hpart, hc⟩ := h
  intro index arg harg
  exact hpart.step (.argument hc harg)

/-- Only flaws of broken markup ask for an explanation. -/
theorem shows_of_quiet {flaw : Flaw} (h : flaw.cause.isBrokenMarkup = false) :
    d.Shows source flaw := by
  intro broken
  rw [h] at broken
  cases broken

theorem explains_of_quiet {fault : Fault} (h : fault.cause.isBrokenMarkup = false) :
    d.Explains fault := by
  intro broken
  rw [h] at broken
  cases broken

/-- A flaw becomes a fault of the text at hand, with the same cause and place. -/
theorem Shows.explains {flaw : Flaw} (h : d.Shows source flaw) (phase : Phase) :
    d.Explains (.ofFlaw source phase flaw) := by
  intro broken
  obtain ⟨part, hpart, hflaw⟩ := h broken
  exact ⟨part, flaw, hpart, hflaw, rfl, rfl⟩

namespace Holds

variable {p q : Progress}

/-- Variables may change, as long as they have the property of values. -/
theorem withStores (h : d.Holds source p) {locals store : Store} (hlocals : d.good locals.toValue)
    (hstore : d.good store.toValue) : d.Holds source (p.withStores locals store) :=
  ⟨⟨h.scope.context, h.scope.visited, h.scope.bindings, hlocals⟩, hstore, h.source⟩

/-- The bindings of a map are values as well. -/
theorem push (h : d.Holds source p) {frame : Mapping Value} (hframe : d.good (.mapping frame)) :
    d.Holds source (p.push frame) :=
  ⟨⟨h.scope.context, h.scope.visited, List.forall_mem_cons.mpr ⟨hframe, h.scope.bindings⟩,
    h.scope.locals⟩, h.store, h.source⟩

theorem pop (h : d.Holds source p) : d.Holds source p.pop :=
  ⟨⟨h.scope.context, h.scope.visited, fun frame hframe => h.scope.bindings frame
    (List.mem_of_mem_tail hframe), h.scope.locals⟩, h.store, h.source⟩

/-- The text of a node that is included sees the context it is given and no bindings. -/
theorem enter (h : d.Holds source p) (next : Source) {context : List Value}
    (hcontext : ∀ v ∈ context, d.good v) : d.Holds next (p.enter next context) :=
  ⟨⟨hcontext, h.scope.visited, List.forall_mem_nil _, h.scope.locals⟩, h.store, rfl⟩

/-- The scope and the text are the old ones again, the variables of the story are not. -/
theorem leave {inner : Source} (h : d.Holds source p) (hq : d.Holds inner q) :
    d.Holds source (q.leave p) :=
  ⟨h.scope, hq.store, h.source⟩

end Holds

end Discipline

namespace Expansion

variable {α β : Type} {d : Discipline} {source : Source} {x : Expansion α} {P Q : α → Prop}

/-- What is returned satisfies `Q`, and a failure is explained. -/
def Answers (d : Discipline) (Q : α → Prop) : Except Fault α → Prop
  | .ok a => Q a
  | .error fault => d.Explains fault

/-- At work on a text, `x` keeps the discipline, also when it fails. What it returns satisfies `Q`,
and its failures are explained. -/
def Yields (d : Discipline) (source : Source) (x : Expansion α) (Q : α → Prop := fun _ => True) :
    Prop :=
  ∀ p, d.Holds source p →
    d.Holds source (x.runIn d.setting p).2 ∧ Answers d Q (x.runIn d.setting p).1

namespace Yields

theorem pure {a : α} (h : Q a) : Yields d source (pure a) Q := by
  intro p hp
  exact ⟨hp, h⟩

/-- Every fault that is raised has to be explained. -/
theorem throw {fault : Fault} (h : d.Explains fault) : Yields d source (throw fault) Q := by
  intro p hp
  exact ⟨hp, h⟩

/-- A failure that is not about markup needs no explanation. -/
theorem fail {cause : Cause} {span : Span} (h : cause.isBrokenMarkup = false) :
    Yields d source (fail cause span) Q := by
  intro p hp
  exact ⟨hp, Discipline.explains_of_quiet h⟩

/-- What a computation looks at keeps the discipline. -/
theorem get : Yields d source get (d.Holds source) := by
  intro p hp
  exact ⟨hp, hp⟩

theorem read : Yields d source read (· = d.setting) := by
  intro p hp
  exact ⟨hp, rfl⟩

/-- In a sequence the second part runs where the first one left the discipline kept, and may rely on
what it returned. -/
theorem bind {f : α → Expansion β} {Q : β → Prop} (hx : Yields d source x P)
    (hf : ∀ a, P a → Yields d source (f a) Q) : Yields d source (x >>= f) Q := by
  intro p hp
  obtain ⟨between, value⟩ := hx p hp
  rw [runIn_bind]
  rcases h : x.runIn d.setting p with ⟨result, q⟩
  rw [h] at between value
  cases result with
  | ok a => exact hf a value q between
  | error fault => exact ⟨between, value⟩

/-- What a scanner or parser finds wrong is a flaw of a part that is read. -/
theorem ofFlaw {y : Except Flaw α} (h : Fiction.Reads (d.Shows source) Q y) :
    Yields d source (ofFlaw y) Q := by
  cases y with
  | ok a => exact .pure h
  | error flaw =>
      refine .bind .get fun p hp => .throw ?_
      rw [hp.source]
      exact h.explains p.phase

/-- A check that has nothing to do with the shape of markup. -/
theorem ofCheck {y : Except Flaw α}
    (h : Fiction.Reads (fun flaw => flaw.cause.isBrokenMarkup = false) Q y) :
    Yields d source (Expansion.ofFlaw y) Q :=
  .ofFlaw (h.mono (fun _ => Discipline.shows_of_quiet) fun _ h => h)

/-- Operations fail, but not as broken markup does. -/
theorem ofOutcome {y : Outcome α} (h : Outcome.All Q y) (span : Span) :
    Yields d source (ofOutcome span y) Q := by
  cases y with
  | ok a => exact .pure h
  | error cause => exact .fail h

/-- Noting in a fault where it came up does not change what it is about. -/
theorem mapFault {f : Fault → Fault} (hx : Yields d source x Q)
    (hf : ∀ fault, d.Explains fault → d.Explains (f fault)) :
    Yields d source (mapFault f x) Q := by
  intro p hp
  obtain ⟨after, value⟩ := hx p hp
  rw [runIn_mapFault]
  refine ⟨after, ?_⟩
  cases result : (x.runIn d.setting p).1 with
  | ok a =>
      rw [result] at value
      exact value
  | error fault =>
      rw [result] at value
      exact hf fault value

/-- A change for a time, perhaps to another text. It has to keep the discipline on the way in and on
the way out. -/
theorem borrowing {inner : Source} {enter : Progress → Progress}
    {leave : Progress → Progress → Progress} (hx : Yields d inner x Q)
    (henter : ∀ p, d.Holds source p → d.Holds inner (enter p))
    (hleave : ∀ p q, d.Holds source p → d.Holds inner q → d.Holds source (leave q p)) :
    Yields d source (borrowing enter leave x) Q := by
  intro p hp
  rw [runIn_borrowing]
  obtain ⟨inside, value⟩ := hx (enter p) (henter p hp)
  exact ⟨hleave p _ hp inside, value⟩

theorem mapM {xs : List α} {f : α → Expansion β} {Q : β → Prop}
    (h : ∀ a ∈ xs, Yields d source (f a) Q) :
    Yields d source (xs.mapM f) fun out => ∀ b ∈ out, Q b := by
  induction xs with
  | nil =>
      rw [List.mapM_nil]
      exact .pure (List.forall_mem_nil _)
  | cons a xs ih =>
      obtain ⟨first, others⟩ := List.forall_mem_cons.mp h
      rw [List.mapM_cons]
      refine .bind first fun b hb => .bind (ih others) fun out hout => .pure ?_
      exact List.forall_mem_cons.mpr ⟨hb, hout⟩

theorem forM {xs : List α} {f : α → Expansion PUnit} (h : ∀ a ∈ xs, Yields d source (f a)) :
    Yields d source (xs.forM f) := by
  induction xs with
  | nil =>
      rw [List.forM_eq_forM, List.forM_nil]
      exact .pure trivial
  | cons a xs ih =>
      obtain ⟨first, others⟩ := List.forall_mem_cons.mp h
      rw [List.forM_eq_forM, List.forM_cons]
      exact .bind first fun _ _ => ih others

/-! ### Variables and chance -/

/-- The values of variables have the property of values, wherever a path leads. -/
theorem resolve (path : Path) : Yields d source (resolve path) (Outcome.All d.good) := by
  intro p hp
  exact ⟨hp, Scope.resolve_closed d.closed hp.scope hp.store path⟩

/-- Changing variables, be they those of the node or those of the story. -/
theorem change {path : Path} {f : Store → Outcome α × Store}
    (hf : ∀ s : Store, d.good s.toValue → Outcome.All Q (f s).1 ∧ d.good (f s).2.toValue) :
    Yields d source (change path f) (Outcome.All Q) := by
  intro p hp
  obtain ⟨ownResult, ownStore⟩ := hf _ hp.scope.locals
  obtain ⟨result, store⟩ := hf _ hp.store
  rw [runIn_change]
  unfold Scope.write
  split
  · exact ⟨hp.withStores hp.scope.locals hp.store, rfl⟩
  · split
    · exact ⟨hp.withStores ownStore hp.store, ownResult⟩
    · exact ⟨hp.withStores hp.scope.locals store, result⟩

theorem write (path : Path) {v : Value} (hv : d.good v) :
    Yields d source (write path v) (Outcome.All fun _ => True) :=
  change fun _ hs => Store.set_closed d.closed hs hv

/-- A sum with the old value has the property if both have it. -/
theorem add (path : Path) {delta : Value} (h : d.good delta) :
    Yields d source (add path delta) (Outcome.All d.good) :=
  change fun _ hs => Store.update_closed d.closed hs fun _ hv =>
    Operator.apply_closed d.closed .plus hv h

theorem invert (path : Path) : Yields d source (invert path) (Outcome.All d.good) :=
  change fun _ hs => Store.update_closed d.closed hs fun v _ => Store.inverse_closed d.closed v

theorem remove (path : Path) : Yields d source (remove path) (Outcome.All fun _ => True) :=
  change fun _ hs => Store.remove_closed d.closed hs

/-- Chance has nothing to do with values. -/
theorem draw (f : Chance → α × Chance) : Yields d source (draw f) := by
  intro p hp
  exact ⟨⟨hp.scope, hp.store, hp.source⟩, trivial⟩

theorem addLink (link : Link) : Yields d source (addLink link) := by
  intro p hp
  exact ⟨⟨hp.scope, hp.store, hp.source⟩, trivial⟩

end Yields

/-- An atom is returned. -/
theorem pure_atom {v : Value} (h : v.IsAtom) : Yields d source (pure v) d.good :=
  .pure (d.closed.atom h)

/-! ## Maps and folds -/

section Maps

variable {body : Expansion Value} (hbody : Yields d source body d.good) {whole : Value}
  (hwhole : d.good whole)

include hbody hwhole

/-- For the body of a map the element, the collection and the key are bound. -/
theorem runBody_yields {element key : Value} (helement : d.good element) (hkey : d.good key) :
    Yields d source (runBody body whole element key) d.good := by
  have frame : d.good (.mapping [("?", element), ("@", whole), ("#", key)]) := by
    have values : ∀ entry ∈ [("?", element), ("@", whole), ("#", key)], d.good entry.2 := by
      simp only [List.forall_mem_cons]
      exact ⟨helement, hwhole, hkey, List.forall_mem_nil _⟩
    exact d.closed.ofEntries values
  exact hbody.borrowing (fun _ hp => hp.push frame) fun _ _ _ hq => hq.pop

/-- The results for the items of a list. -/
theorem eachItem_yields {items : List Value} (index : Nat) (h : ∀ v ∈ items, d.good v) :
    Yields d source (eachItem body whole index items) fun out => ∀ v ∈ out, d.good v := by
  induction items generalizing index with
  | nil => exact .pure h
  | cons v rest ih =>
      obtain ⟨first, others⟩ := List.forall_mem_cons.mp h
      have position : d.good (.int (.ofNat index)) := d.closed.atom trivial
      refine .bind (runBody_yields hbody hwhole first position) fun w hw => ?_
      refine .bind (ih (index + 1) others) fun out hout => .pure ?_
      exact List.forall_mem_cons.mpr ⟨hw, hout⟩

/-- The entries keep their keys. -/
theorem eachEntry_yields {entries : Mapping Value} (h : ∀ entry ∈ entries, d.good entry.2) :
    Yields d source (eachEntry body whole entries) fun out =>
      out.map Prod.fst = entries.map Prod.fst ∧ ∀ entry ∈ out, d.good entry.2 := by
  induction entries with
  | nil => exact .pure ⟨rfl, h⟩
  | cons entry rest ih =>
      obtain ⟨first, others⟩ := List.forall_mem_cons.mp h
      have key : d.good (.text entry.1) := d.closed.atom trivial
      refine .bind (runBody_yields hbody hwhole first key) fun w hw => ?_
      refine .bind (ih others) fun out hout => .pure ⟨?_, ?_⟩
      · rw [List.map_cons, List.map_cons, hout.1]
      · exact List.forall_mem_cons.mpr ⟨hw, hout.2⟩

/-- A map gives a collection of the same shape, which keeps the property by exchange of values. -/
theorem mapEach_yields (span : Span) : Yields d source (mapEach body whole span) d.good := by
  unfold mapEach
  split
  · refine .bind (eachItem_yields hbody hwhole 0 (d.closed.list.mp hwhole)) fun out hout => .pure ?_
    exact d.closed.list.mpr hout
  · refine .bind (eachEntry_yields hbody hwhole (d.closed.values hwhole)) fun out hout => .pure ?_
    exact d.closed.exchange hwhole hout.1 hout.2
  · exact .fail rfl

end Maps

/-- A fold of a list, or what the bar does with other values. -/
theorem reduceValue_yields (op : Operator) (place : Span) {folded : Value} (hfolded : d.good folded)
    {seed : Expansion Value} (hseed : Yields d source seed d.good)
    {signed : Option (Expansion Value)} (hsigned : ∀ x ∈ signed, Yields d source x d.good) :
    Yields d source (reduceValue op place folded seed signed) d.good := by
  unfold reduceValue
  split
  · refine .bind hseed fun v hv => .ofOutcome ?_ place
    exact Operator.reduce_closed d.closed op hv (d.closed.list.mp hfolded)
  · refine .bind (hsigned _ rfl) fun v hv => .ofOutcome ?_ place
    exact Operator.apply_closed d.closed .bar hfolded hv
  · exact .bind hseed fun _ _ => .fail rfl

/-! ## Expressions -/

/-- Calls keep the discipline wherever they stand in a part that is read. -/
def Disciplined (d : Discipline) (call : Caller) : Prop :=
  ∀ {source c}, d.Calls source c → Yields d source (call c) d.good

/-- The call of a token stands in a part that is read, and its value has the property of values. -/
def FineToken (d : Discipline) (source : Source) : Token → Prop :=
  Token.All (d.Calls source) d.good

section

variable {deferred : Caller}

/-- Lists of good values. -/
theorem evalItems_yields {items : List Expr}
    (h : ∀ x ∈ items, Yields d source (evalExpr deferred x) d.good) :
    Yields d source (evalItems deferred items) fun out => ∀ v ∈ out, d.good v := by
  induction items with
  | nil => exact .pure (List.forall_mem_nil _)
  | cons x rest ih =>
      obtain ⟨first, others⟩ := List.forall_mem_cons.mp h
      refine .bind first fun v hv => .bind (ih others) fun out hout => .pure ?_
      exact List.forall_mem_cons.mpr ⟨hv, hout⟩

/-- Entries with good values. Keys are texts or the mapping fails. -/
theorem evalEntries_yields {entries : List (Expr × Expr)}
    (hkeys : ∀ entry ∈ entries, Yields d source (evalExpr deferred entry.1) d.good)
    (hvalues : ∀ entry ∈ entries, Yields d source (evalExpr deferred entry.2) d.good) :
    Yields d source (evalEntries deferred entries) fun out => ∀ entry ∈ out, d.good entry.2 := by
  induction entries with
  | nil => exact .pure (List.forall_mem_nil _)
  | cons entry rest ih =>
      obtain ⟨key, keys⟩ := List.forall_mem_cons.mp hkeys
      obtain ⟨value, values⟩ := List.forall_mem_cons.mp hvalues
      refine .bind key fun _ _ => ?_
      split
      · refine .bind value fun v hv => .bind (ih keys values) fun out hout => .pure ?_
        exact List.forall_mem_cons.mpr ⟨hv, hout⟩
      · exact .fail rfl

end

variable {call : Caller} (hcall : Disciplined d call)

include hcall

/-- A call that is expanded is replaced by a good value, and one behind `!` is kept for later. -/
theorem expandCalls_yields {tokens : List Lexeme} (afterBang : Bool)
    (h : ∀ t ∈ tokens, t.All (FineToken d source) fun _ => True) :
    Yields d source (expandCalls call afterBang tokens) fun out =>
      ∀ t ∈ out, t.All (FineToken d source) fun _ => True := by
  induction tokens generalizing afterBang with
  | nil => exact .pure h
  | cons lexeme rest ih =>
      obtain ⟨first, others⟩ := List.forall_mem_cons.mp h
      have behind (l : Lexeme) (hl : l.All (FineToken d source) fun _ => True) :
          Yields d source (do
            let out ← expandCalls call (l.token.isMark .bang) rest
            return l :: out) fun out => ∀ t ∈ out, t.All (FineToken d source) fun _ => True :=
        .bind (ih _ others) fun _ hout => .pure (List.forall_mem_cons.mpr ⟨hl, hout⟩)
      unfold expandCalls
      dsimp only
      split
      · next c htoken =>
          have held := first.token
          rw [htoken] at held
          exact .bind (hcall held) fun v hv => .bind (.pure ⟨hv, trivial⟩) behind
      · exact .bind (.pure first) behind

/-- **Trees compute good values** from good values and from calls that keep the discipline. -/
theorem evalExpr_yields {e : Expr} (h : e.All (FineToken d source) fun _ => True) :
    Yields d source (evalExpr call e) d.good := by
  induction h with
  | literal _ hv => exact .pure hv
  | @lookup span path => exact .bind (.resolve path) fun _ hv => .ofOutcome hv span
  | list _ _ ih => exact .bind (evalItems_yields ih) fun _ hout => .pure (d.closed.list.mpr hout)
  | mapping _ _ _ ihKeys ihValues =>
      exact .bind (evalEntries_yields ihKeys ihValues) fun _ hout => .pure (d.closed.ofEntries hout)
  | @unary span op _ _ _ ih =>
      exact .bind ih fun v _ => .ofOutcome (Prefix.apply_closed d.closed op v) span
  | @binary _ op place _ _ _ _ _ _ left right =>
      cases op with
      -- these two hand on one of their operands
      | and =>
          refine .bind left fun v hv => ?_
          split
          · exact right
          · exact .pure hv
      | or =>
          refine .bind left fun v hv => ?_
          split
          · exact .pure hv
          · exact right
      | _ =>
          refine .bind left fun v hv => .bind right fun w hw => .ofOutcome ?_ place
          exact Operator.apply_closed d.closed _ hv hw
  | @ternary _ op place _ _ _ _ _ _ _ _ left middle right =>
      refine .bind left fun v hv => .bind middle fun _ _ => .bind right fun w hw => .ofOutcome ?_ place
      exact Operator.applyThird_closed d.closed op hv hw
  | @index span _ _ _ _ _ target index =>
      refine .bind target fun v hv => .bind index fun _ _ => .ofOutcome ?_ span
      exact Value.index_closed d.closed hv
  | @reduce _ op place _ _ signed _ _ _ _ _ left seed operand =>
      cases signed with
      | none =>
          refine .bind left fun folded hfolded => ?_
          exact reduceValue_yields op place hfolded seed fun _ h => by cases h
      | some x =>
          refine .bind left fun folded hfolded => reduceValue_yields op place hfolded seed fun y hy => ?_
          cases hy
          exact operand x rfl
  | @each _ c _ _ _ _ collection body =>
      exact .bind collection fun whole hwhole => mapEach_yields body hwhole c.span
  | @eachCall _ c _ _ _ body collection =>
      exact .bind collection fun whole hwhole => mapEach_yields (hcall body) hwhole c.span

omit hcall in
/-- What is written in an expression is no collection, and its calls stand in it. -/
theorem tokens_yields {f : Fragment} (h : d.Reads source (.expression f)) :
    Yields d source (ofFlaw (Lexer.tokens f)) fun tokens =>
      ∀ t ∈ tokens, t.All (FineToken d source) fun _ => True := by
  refine .ofFlaw ?_
  cases lexed : Lexer.tokens f with
  | error flaw => exact fun _ => ⟨_, h, Part.mem_flaws_of_tokens lexed⟩
  | ok tokens =>
      intro t ht
      have written := ((Lexer.tokens_sound f).of_ok lexed t ht).token
      refine ⟨?_, trivial⟩
      cases htoken : t.token with
      | call c => exact h.calls (.expression lexed ht htoken)
      | value v =>
          rw [htoken] at written
          exact d.closed.atom written
      | name s | binding c | operator op | not | mark m => trivial

/-- **Expressions compute good values.** A deferred call stands in the expression like any other, by
`evaluate_eq`. -/
theorem evaluate_yields {f : Fragment} (h : d.Reads source (.expression f)) :
    Yields d source (evaluate call f) d.good := by
  rw [evaluate_eq]
  refine .bind (tokens_yields h) fun tokens htokens => ?_
  refine .bind (expandCalls_yields hcall false htokens) fun expanded hexpanded => ?_
  have tree : Yields d source (ofFlaw (Parser.parse expanded f.span))
      (Expr.All (FineToken d source) fun _ => True) :=
    .ofCheck ((Parser.parse_reads trivial trivial (fun _ _ => trivial) hexpanded).mono
      (fun _ h => h.2) fun _ h => h)
  exact .bind tree fun e he => evalExpr_yields hcall he

/-! ## Markup -/

section Links

variable {expand : Fragment → Expansion String} {f : Fragment} {parts : List Segment}
  (hexpand : ∀ {f}, d.Reads source (.markup f) → Yields d source (expand f))
  (h : d.Reads source (.markup f)) (hscan : Markup.scan f = .ok parts)

include hexpand h hscan

/-- Label, target, context and commands of a link are nested in the markup around the link. -/
theorem recordLink_yields {l : LinkText} (hl : .link l ∈ parts) :
    Yields d source (recordLink call expand l) := by
  have commands (traversal : Fragment) (htraversal : l.traversal = some traversal) :
      Yields d source (ofFlaw (Traversal.commands traversal)) := by
    refine .ofFlaw ?_
    cases hcommands : Traversal.commands traversal with
    | ok commands => trivial
    | error flaw =>
        exact fun _ => ⟨_, h, Part.mem_flaws_of_commands hscan hl htraversal hcommands⟩
  refine .bind (hexpand (h.step (.label hscan hl))) fun label _ => ?_
  split
  · exact .fail rfl
  · next first rest htarget =>
      refine .bind (hexpand (h.step (.target hscan hl htarget))) fun target _ => ?_
      dsimp only
      split
      · exact .fail rfl
      · refine .bind (.mapM fun arg harg =>
          evaluate_yields hcall (h.step (.context hscan hl htarget harg))) fun context _ => ?_
        split
        · next traversal htraversal =>
            refine .bind (commands traversal htraversal) fun commands _ => ?_
            exact .bind .get fun _ _ => .bind (.addLink _) fun _ _ => .pure trivial
        · refine .bind (.pure (Q := fun _ => True) trivial) fun commands _ => ?_
          exact .bind .get fun _ _ => .bind (.addLink _) fun _ _ => .pure trivial

/-- Segments come from scanning a part that is read, so their calls and links stand in it. -/
theorem segments_yields {rest : List Segment} (hrest : ∀ segment ∈ rest, segment ∈ parts) :
    Yields d source (segments call expand rest) := by
  induction rest with
  | nil => exact .pure trivial
  | cons segment rest ih =>
      obtain ⟨first, others⟩ := List.forall_mem_cons.mp hrest
      have behind (text : String) : Yields d source (do
          let out ← segments call expand rest
          return text ++ out) :=
        .bind (ih others) fun _ _ => .pure trivial
      cases segment with
      | text f => exact behind _
      | call c => exact .bind (hcall (h.calls (.markup hscan first))) fun _ _ => behind _
      | link l =>
          exact .bind (recordLink_yields hcall hexpand h hscan first) fun _ _ => behind _

end Links

/-- **Markup breaks only where one of its parts has a flaw**, by induction on the bound for links.
-/
theorem markup_yields {f : Fragment} (h : d.Reads source (.markup f)) :
    Yields d source (markup call f) := by
  unfold markup
  generalize f.chars.length + 1 = n
  induction n generalizing f with
  | zero => exact .pure trivial
  | succ n ih =>
      have scanned : Yields d source (ofFlaw (Markup.scan f)) (Markup.scan f = .ok ·) := by
        refine .ofFlaw ?_
        cases hscan : Markup.scan f with
        | ok parts => rfl
        | error flaw => exact fun _ => ⟨_, h, Part.mem_flaws_of_scan hscan⟩
      refine .bind scanned fun parts hscan => ?_
      exact segments_yields hcall ih h hscan fun _ h => h

theorem body_yields {f : Fragment} (h : d.Reads source (Reading.body.part f)) :
    Yields d source (body call f) d.good :=
  .bind (markup_yields hcall h) fun _ _ => pure_atom trivial

/-- A path is expanded as markup before it is read. -/
theorem pathArgument_yields {f : Fragment} (h : d.Reads source (Reading.name.part f)) :
    Yields d source (pathArgument call f) :=
  .bind (markup_yields hcall h) fun _ _ => .ofOutcome (Path.parse_quiet _) _

/-! ## Calls -/

omit hcall in
theorem argument_of_lt {c : Call} {index : Nat} (h : index < c.args.length) :
    c.args[index]? = some (argument c index) := by
  unfold argument
  rw [List.getD_eq_getElem?_getD, List.getElem?_eq_getElem h, Option.getD_some]

omit hcall in
/-- The number of arguments is checked first; afterwards the arguments are there. -/
theorem checkCount_reads (c : Call) (n : Nat) :
    Fiction.Reads (fun flaw => flaw.cause.isBrokenMarkup = false) (fun _ => c.args.length = n)
      (Traversal.checkCount c n) := by
  unfold Traversal.checkCount
  split
  · next count => exact count
  · exact rfl

omit hcall in
theorem checkPresent_reads (c : Call) (index : Nat) (flaw : CallFlaw) :
    Fiction.Reads (fun flaw => flaw.cause.isBrokenMarkup = false) (fun _ => index < c.args.length)
      (Traversal.checkPresent c index flaw) := by
  unfold Traversal.checkPresent
  split
  · next found =>
      split
      · exact rfl
      · exact (List.getElem?_eq_some_iff.mp found).1
  · exact rfl

omit hcall in
/-- A change of state has a path and, unless it inverts, a value. -/
theorem checkArguments_yields (verb : Verb) (c : Call) :
    Yields d source (ofFlaw (Traversal.checkArguments verb c)) fun _ =>
      0 < c.args.length ∧ (verb = .invert ∨ 1 < c.args.length) := by
  refine .ofCheck ?_
  cases verb with
  | invert =>
      refine (checkCount_reads c 1).bind fun _ _ => (checkPresent_reads c 0 _).mono (fun _ h => h) ?_
      exact fun _ present => ⟨present, .inl rfl⟩
  | set | add =>
      refine (checkCount_reads c 2).bind fun _ _ => (checkPresent_reads c 1 _).bind fun _ value => ?_
      refine (checkPresent_reads c 0 _).mono (fun _ h => h) ?_
      exact fun _ present => ⟨present, .inr value⟩

section Calls

variable {c : Call}

/-- The path is read before the value, and nothing is written if one of them fails. -/
theorem setCall_yields (h : d.Arguments source (some .set) c) :
    Yields d source (setCall call c) d.good := by
  refine .bind (checkArguments_yields .set c) fun _ present => ?_
  have value : 1 < c.args.length := present.2.resolve_left (by decide)
  refine .bind (pathArgument_yields hcall (h _ _ (argument_of_lt present.1))) fun path _ => ?_
  refine .bind (evaluate_yields hcall (h _ _ (argument_of_lt value))) fun v hv => ?_
  exact .bind (.write path hv) fun _ h => .bind (.ofOutcome h _) fun _ _ => pure_atom trivial

theorem addCall_yields (h : d.Arguments source (some .add) c) :
    Yields d source (addCall call c) d.good := by
  refine .bind (checkArguments_yields .add c) fun _ present => ?_
  have value : 1 < c.args.length := present.2.resolve_left (by decide)
  refine .bind (pathArgument_yields hcall (h _ _ (argument_of_lt present.1))) fun path _ => ?_
  refine .bind (evaluate_yields hcall (h _ _ (argument_of_lt value))) fun delta hdelta => ?_
  exact .bind (.add path hdelta) fun _ h => .bind (.ofOutcome h _) fun _ _ => pure_atom trivial

theorem invertCall_yields (h : d.Arguments source (some .invert) c) :
    Yields d source (invertCall call c) d.good := by
  refine .bind (checkArguments_yields .invert c) fun _ present => ?_
  refine .bind (pathArgument_yields hcall (h _ _ (argument_of_lt present.1))) fun path _ => ?_
  exact .bind (.invert path) fun _ h => .bind (.ofOutcome h _) fun _ _ => pure_atom trivial

theorem evalCall_yields (h : d.Arguments source (some .eval) c) :
    Yields d source (evalCall call c) d.good :=
  .bind (.ofCheck (checkCount_reads c 1)) fun _ count =>
    evaluate_yields hcall (h 0 _ (argument_of_lt (by omega)))

/-- All arguments are expanded as markup. -/
theorem textCall_yields (h : d.Arguments source (some .text) c) :
    Yields d source (textCall call c) d.good := by
  refine .bind (.mapM (Q := d.good) fun arg harg => ?_) fun _ _ => pure_atom trivial
  obtain ⟨index, found⟩ := List.mem_iff_getElem?.mp harg
  exact body_yields hcall (h index arg found)

theorem lookupCall_yields (h : d.Arguments source (some .lookup) c) :
    Yields d source (lookupCall call c) d.good := by
  refine .bind (.ofCheck (checkCount_reads c 1)) fun _ count => ?_
  refine .bind (pathArgument_yields hcall (h 0 _ (argument_of_lt (by omega)))) fun path _ => ?_
  exact .bind (.resolve path) fun _ h => .ofOutcome h _

/-- A value from the context, or null where there is none. -/
theorem contextCall_yields (h : d.Arguments source (some .context) c) :
    Yields d source (contextCall call c) d.good := by
  refine .bind (.ofCheck (checkCount_reads c 1)) fun _ count => ?_
  refine .bind (evaluate_yields hcall (h 0 _ (argument_of_lt (by omega)))) fun v _ => ?_
  split
  · split
    · exact pure_atom trivial
    · exact .bind .get fun p hp => .pure (d.closed.getD hp.scope.context _)
  · exact .fail rfl

/-- Conditions and results keep their turns two arguments further on. -/
theorem branches_yields : ∀ {fallback : Option Fragment} {args : List Fragment},
    (∀ f ∈ fallback, d.Reads source (Reading.body.part f)) →
    (∀ (index : Nat) arg, args[index]? = some arg →
      d.Reads source ((reading (some .branch) index).part arg)) →
    Yields d source (branches call fallback args) d.good
  | fallback, condition :: result :: rest, hfallback, h => by
      have others (index : Nat) (arg : Fragment) (found : rest[index]? = some arg) :
          d.Reads source ((reading (some .branch) index).part arg) := by
        have later := h (index + 2) arg found
        simpa only [reading, Nat.add_mod_right] using later
      have hresult : d.Reads source (Reading.body.part result) := h 1 result rfl
      unfold branches
      split
      · refine branches_yields (fun f hf => ?_) others
        cases fallback with
        | none =>
            cases hf
            exact hresult
        | some first => exact hfallback f hf
      · refine .bind (evaluate_yields hcall (h 0 condition rfl)) fun v _ => ?_
        split
        · exact body_yields hcall hresult
        · exact branches_yields hfallback others
  | some result, [], hfallback, _ | some result, [_], hfallback, _ =>
      body_yields hcall (hfallback result rfl)
  | none, [], _, _ | none, [_], _, _ => pure_atom trivial

/-- Arguments are conditions and results by turns. -/
theorem branchCall_yields (h : d.Arguments source (some .branch) c) :
    Yields d source (branchCall call c) d.good := by
  unfold branchCall
  split
  · exact .fail rfl
  · exact branches_yields hcall (fun _ hf => by cases hf) h

/-- Whether the argument is expanded depends on the visits, and both are fine. -/
theorem visitCall_yields (first : Bool)
    (h : ∀ (index : Nat) arg, c.args[index]? = some arg → d.Reads source (Reading.body.part arg)) :
    Yields d source (visitCall call first c) d.good := by
  refine .bind (.ofCheck (checkCount_reads c 1)) fun _ count => .bind .get fun p _ => ?_
  split
  · exact body_yields hcall (h 0 _ (argument_of_lt (by omega)))
  · exact pure_atom trivial

/-- An item of a list that was evaluated, or a number. -/
theorem randomCall_yields (h : d.Arguments source (some .random) c) :
    Yields d source (randomCall call c) d.good := by
  unfold randomCall
  split
  · next choices hargs =>
      have reads : d.Reads source (.expression choices) := h 0 _ (by rw [hargs]; rfl)
      refine .bind (evaluate_yields hcall reads) fun v hv => ?_
      split
      · split
        · exact .fail rfl
        · refine .bind (.draw _) fun position _ => .pure ?_
          exact d.closed.getD (d.closed.list.mp hv) position
      · exact .fail rfl
  · next low high hargs =>
      have lower : d.Reads source (.expression low) := h 0 _ (by rw [hargs]; rfl)
      have upper : d.Reads source (.expression high) := h 1 _ (by rw [hargs]; rfl)
      refine .bind (evaluate_yields hcall lower) fun v _ => ?_
      refine .bind (evaluate_yields hcall upper) fun w _ => ?_
      split
      · split
        · exact .bind (.draw _) fun _ _ => pure_atom trivial
        · exact .fail rfl
      · exact .fail rfl
  · exact .fail rfl

/-! ### The inventory -/

omit hcall in
/-- A table of the inventory that is missing counts as empty. -/
theorem table_yields (name : String) :
    Yields d source (table name) (Outcome.All fun _ => True) := by
  refine .bind (.resolve _) fun result hresult => ?_
  cases result with
  | ok v =>
      cases v with
      | mapping m => exact .pure trivial
      | null | bool b | int n | real x | text s | list items => exact .pure rfl
  | error cause =>
      refine .pure ?_
      split
      · trivial
      · exact hresult

omit hcall in
/-- What is left of an item is written, or its entry is removed. -/
theorem storeCount_yields (path : Path) (left : Int64) :
    Yields d source (storeCount path left) (Outcome.All fun _ => True) := by
  unfold storeCount
  split
  · exact .write path (d.closed.atom trivial)
  · refine .bind (.remove path) fun result hresult => ?_
    cases result with
    | ok removed => exact .pure trivial
    | error cause =>
        refine .pure ?_
        split
        · trivial
        · exact hresult

theorem selector_yields {arg : Option Fragment}
    (h : ∀ f ∈ arg, d.Reads source (Reading.name.part f)) :
    Yields d source (selector call arg) := by
  unfold selector
  split
  · next f =>
      split
      · exact .pure trivial
      · exact .bind (markup_yields hcall (h f rfl)) fun _ _ => .pure trivial
  · exact .pure trivial

theorem amount_yields (h : ∀ f ∈ c.args[1]?, d.Reads source (.expression f)) :
    Yields d source (amount call c) := by
  unfold amount
  split
  · next f found =>
      split
      · exact .pure trivial
      · refine .bind (evaluate_yields hcall (h f found)) fun v _ => ?_
        split
        · exact .pure trivial
        · exact .fail rfl
  · exact .pure trivial

/-- An item has to be named. -/
theorem itemArgument_yields (h : ∀ f ∈ c.args[0]?, d.Reads source (Reading.name.part f)) :
    Yields d source (itemArgument call c) := by
  unfold itemArgument
  split
  · exact .fail rfl
  · refine .bind (selector_yields hcall h) fun item _ => ?_
    split
    · exact .pure trivial
    · exact .fail rfl

omit hcall in
/-- Reading a table of the inventory. -/
theorem withTable_yields {name : String} {span : Span} {f : Mapping Value → Expansion α}
    (hf : ∀ m, Yields d source (f m) Q) :
    Yields d source (do f (← ofOutcome span (← table name))) Q :=
  .bind (table_yields name) fun _ h => .bind (.ofOutcome h span) fun m _ => hf m

omit hcall in
theorem total_yields (counts : List Value) (span : Span) :
    Yields d source (do return Value.int (← ofOutcome span (total counts))) d.good := by
  have sum : Outcome.All (fun _ => True) (total counts) := by
    unfold total
    split
    · trivial
    · exact rfl
  exact .bind (.ofOutcome sum span) fun _ _ => pure_atom trivial

theorem countCall_yields (h : d.Arguments source (some .count) c) :
    Yields d source (countCall call c) d.good := by
  unfold countCall
  split
  · exact .fail rfl
  · refine .bind (selector_yields hcall (h 0)) fun which _ => ?_
    refine withTable_yields fun held => ?_
    split
    · exact total_yields _ _
    · split
      · exact withTable_yields fun categories => total_yields _ _
      · exact pure_atom trivial

theorem listCall_yields (h : d.Arguments source (some .list) c) :
    Yields d source (listCall call c) d.good := by
  unfold listCall
  split
  · exact .fail rfl
  · refine .bind (selector_yields hcall (h 0)) fun which _ => ?_
    split
    · exact withTable_yields fun _ => withTable_yields fun _ => withTable_yields fun _ =>
        pure_atom trivial
    · split
      · exact withTable_yields fun _ => withTable_yields fun _ => withTable_yields fun _ =>
          pure_atom trivial
      · exact .bind (.fail (Q := fun _ => True) rfl) fun _ _ => withTable_yields fun _ =>
          withTable_yields fun _ => withTable_yields fun _ => pure_atom trivial

omit hcall in
theorem storeChange_yields (c : Call) (path : Path) (operation : String) (left : Option Int64) :
    Yields d source (storeChange c path operation left) d.good := by
  unfold storeChange
  split
  · exact .bind (storeCount_yields path _) fun _ h => .bind (.ofOutcome h _) fun _ _ =>
      pure_atom trivial
  · exact .fail rfl

theorem plusCall_yields (h : d.Arguments source (some .plus) c) :
    Yields d source (plusCall call c) d.good := by
  refine .bind (itemArgument_yields hcall (h 0)) fun item _ => ?_
  refine .bind (amount_yields hcall (h 1)) fun n _ => ?_
  refine .bind (.resolve _) fun result hresult => ?_
  cases result with
  | ok v => exact storeChange_yields c _ _ _
  | error cause =>
      dsimp only
      split
      · exact storeChange_yields c _ _ _
      · exact .bind (.fail (Q := fun _ => True) hresult) fun _ _ => storeChange_yields c _ _ _

theorem minusCall_yields (h : d.Arguments source (some .minus) c) :
    Yields d source (minusCall call c) d.good := by
  refine .bind (itemArgument_yields hcall (h 0)) fun item _ => ?_
  refine .bind (amount_yields hcall (h 1)) fun n _ => ?_
  refine .bind (.resolve _) fun _ h => .bind (.ofOutcome h _) fun held _ => ?_
  exact storeChange_yields c _ _ _

/-! ### Dispatch -/

/-- **Each call of the library keeps the discipline** with its own way to read its arguments. -/
theorem builtin_yields {b : Builtin} (h : d.Arguments source (some b) c) :
    Yields d source (builtin call c b) d.good := by
  cases b with
  | set => exact setCall_yields hcall h
  | add => exact addCall_yields hcall h
  | invert => exact invertCall_yields hcall h
  | eval => exact evalCall_yields hcall h
  | text => exact textCall_yields hcall h
  | lookup => exact lookupCall_yields hcall h
  | context => exact contextCall_yields hcall h
  | branch => exact branchCall_yields hcall h
  | once => exact visitCall_yields hcall true h
  | again => exact visitCall_yields hcall false h
  | random => exact randomCall_yields hcall h
  | count => exact countCall_yields hcall h
  | list => exact listCall_yields hcall h
  | plus => exact plusCall_yields hcall h
  | minus => exact minusCall_yields hcall h

/-- The arguments of an inclusion are evaluated in the including text; blank ones are null. -/
theorem inclusionContext_yields (h : d.Arguments source none c) :
    Yields d source (inclusionContext call c) fun context => ∀ v ∈ context, d.good v := by
  refine .mapM fun arg harg => ?_
  split
  · exact pure_atom trivial
  · obtain ⟨index, found⟩ := List.mem_iff_getElem?.mp harg
    exact evaluate_yields hcall (h index arg found)

end Calls

/-- A node that is included is a text of its own. It sees the values handed over and the variables of
the including one. -/
theorem inclusion_yields {name : String} {node : NodeBody} {context : List Value}
    (hnode : d.setting.story.node? name = some node) (hcontext : ∀ v ∈ context, d.good v) :
    Yields d source (inclusion call name node context) d.good := by
  unfold inclusion
  split
  · exact pure_atom trivial
  · next content =>
      have whole : d.Reads ⟨name, content⟩ (.markup (.ofString content)) := ⟨d.nodes hnode, .refl⟩
      refine .mapFault (.borrowing ?_ (fun p hp => hp.enter _ hcontext) ?_) fun _ h => h
      · exact .bind (markup_yields hcall whole) fun _ _ => pure_atom trivial
      · exact fun p q hp hq => hp.leave hq

/-- A name stands for a call of the library, or else for a node. -/
theorem dispatch_yields {c : Call} (h : d.Calls source c) :
    Yields d source (dispatch call c) d.good := by
  have arguments := h.arguments
  refine .bind .read fun s hs => ?_
  subst hs
  split
  · next b found =>
      rw [found] at arguments
      exact builtin_yields hcall arguments
  · next missing =>
      rw [missing] at arguments
      split
      · next node hnode =>
          refine .bind (inclusionContext_yields hcall arguments) fun context hcontext => ?_
          exact inclusion_yields hcall hnode hcontext
      · exact .fail rfl

omit hcall

/-- **Calls keep the discipline**, however many levels are left. -/
theorem callWith_yields (room : Nat) : Disciplined d (callWith room) := by
  induction room with
  | zero => exact fun _ => .bind .read fun _ _ => .fail rfl
  | succ room ih =>
      intro source c h
      refine .mapFault (.borrowing (dispatch_yields ih h) ?_ ?_) fun _ h => h
      · exact fun p hp => ⟨hp.scope, hp.store, hp.source⟩
      · exact fun p q _ hq => ⟨hq.scope, hq.store, hq.source⟩

theorem room_yields : Yields d source room :=
  .bind .read fun _ _ => .bind .get fun _ _ => .pure trivial

/-- **Expanding a text keeps the discipline.** -/
theorem markupTop_yields {f : Fragment} (h : d.Reads source (.markup f)) :
    Yields d source (markupTop f) :=
  .bind room_yields fun _ _ => markup_yields (callWith_yields _) h

/-! ## Commands -/

/-- A command with a value of its own writes this value, which has to be good. -/
theorem literalCommand_yields {command : Command} {verb : Verb} {path : Path} {value : Option Value}
    (h : ∀ v ∈ value, d.good v) :
    Yields d source (literalCommand command verb path value) (Outcome.All fun _ => True) := by
  have forget (result : Outcome Value) (hresult : Outcome.All d.good result) :
      Outcome.All (fun _ => True) (result.map fun _ => ()) := by
    cases result with
    | ok v => trivial
    | error cause => exact hresult
  unfold literalCommand
  split
  · exact .write path (h _ rfl)
  · exact .bind (.add path (h _ rfl)) fun result hresult => .pure (forget result hresult)
  · exact .bind (.invert path) fun result hresult => .pure (forget result hresult)
  · exact .pure rfl

/-- The text of a command is one of its own, so all texts have to be known. -/
theorem runCommand_yields {command : Command} (hknown : ∀ source, d.known source)
    (h : ∀ v ∈ command.value?, d.good v) : Yields d source (runCommand command) := by
  unfold runCommand
  split
  · next text =>
      have whole : d.Reads ⟨source.name ++ " (link)", text⟩ (.markup (.ofString text)) :=
        ⟨hknown _, .refl⟩
      refine .borrowing (.bind (markupTop_yields whole) fun _ _ => .pure trivial) ?_ ?_
      · intro p hp
        refine ⟨hp.scope, hp.store, ?_⟩
        rw [← hp.source]
        rfl
      · exact fun p q hp hq => ⟨hq.scope, hq.store, hp.source⟩
  · refine .bind (literalCommand_yields h) fun result hresult => ?_
    cases result with
    | ok done => exact .pure trivial
    | error cause => exact .bind .get fun _ _ => .throw (Discipline.explains_of_quiet hresult)

end Expansion

/-! ## Sessions -/

/-- What a session expands at a node, it does in the setting of its story with no bindings and no
variables of the node. -/
theorem Session.expand_yields {α : Type} {s : Session} {d : Discipline}
    (hd : d.setting = ⟨s.story, s.library, s.settings.maxDepth⟩) {source : Source}
    {x : Expansion α} {Q : α → Prop} (hx : Expansion.Yields d source x Q) {world : World}
    {phase : Phase} {surroundings : Surroundings} {result : Except Fault α} {p : Progress}
    (h : s.expand world phase source surroundings x = (result, p))
    (hstore : d.good world.store.toValue) (hcontext : ∀ v ∈ surroundings.context, d.good v)
    (hvisited : d.good (.mapping surroundings.visited)) :
    d.Holds source p ∧ Expansion.Answers d Q result := by
  have after := hx ⟨phase, source, ⟨surroundings, [], .empty⟩, [], 0, world⟩
    ⟨⟨hcontext, hvisited, List.forall_mem_nil _, d.closed.empty⟩, hstore, rfl⟩
  rw [hd, ← expand, h] at after
  exact after

end Fiction
