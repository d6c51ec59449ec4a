import Fiction.Proofs.Expr.Tiling

/-!
# Fiction.Proofs.Expr.Spans

**The ranges of an expression are nested.** Where the tokens stand one behind the other, every node covers
exactly the tokens that it was read from.

* `Ordered` are tokens one behind the other, and `Runs` says that a range goes from the first token of some
  to the last. Ranges that run along parts of the tokens are joined by `Runs.join`.
* `Nested` is what is asked of one node: what stands below it lies inside its range.
* `Sits` puts both together. There is a lemma for each shape that a rule of the grammar has: `Sits.leaf`,
  `Sits.signed`, `Sits.bracketed`, `Sits.widened` and `Sits.infixed`.
* `placed_of_spells` goes through the rules of the grammar, by induction.
* `ordered_of_tokens`: the tokens of a text stand one behind the other, and its calls stand where their tokens
  do. Expanding calls does not change that.
-/

namespace Fiction

namespace Span

/-- A range that lies inside another. -/
structure Inside (a b : Span) : Prop where
  start : b.start ≤ a.start
  stop : a.stop ≤ b.stop

theorem Inside.trans {a b c : Span} (h : a.Inside b) (h' : b.Inside c) : a.Inside c :=
  ⟨h'.start.trans h.start, h.stop.trans h'.stop⟩

theorem Inside.join {a b c : Span} (h : a.Inside c) (h' : b.Inside c) : (a.join b).Inside c :=
  ⟨Nat.le_min.mpr ⟨h.start, h'.start⟩, Nat.max_le.mpr ⟨h.stop, h'.stop⟩⟩

theorem join_self (a : Span) : a.join a = a := by
  rw [join, Nat.min_self, Nat.max_self]

end Span

namespace Expr

/-- Where the operator of an expression stands, if the expression says so. -/
def places : Expr → List Span
  | binary _ _ place _ _ | ternary _ _ place _ _ _ | reduce _ _ place _ _ _ => [place]
  | _ => []

/-- The call that is made for each element of a collection. -/
def bodies : Expr → List Call
  | eachCall _ _ call => [call]
  | _ => []

theorem span_withSpan (s : Span) (e : Expr) : (e.withSpan s).span = s := by
  cases e <;> rfl

theorem places_withSpan (s : Span) (e : Expr) : (e.withSpan s).places = e.places := by
  cases e <;> rfl

theorem bodies_withSpan (s : Span) (e : Expr) : (e.withSpan s).bodies = e.bodies := by
  cases e <;> rfl

end Expr

namespace Parser

variable {tokens whole piece front middle back : List Lexeme} {a b s : Span} {e x : Expr}

/-! ## Tokens one behind the other -/

/-- Tokens one behind the other. -/
structure Ordered (tokens : List Lexeme) : Prop where
  forward : ∀ lexeme ∈ tokens, lexeme.span.start ≤ lexeme.span.stop
  disjoint : tokens.Pairwise fun first second => first.span.stop ≤ second.span.start

theorem Ordered.part (h : Ordered whole) (part : piece <:+: whole) : Ordered piece :=
  ⟨fun lexeme hl => h.forward lexeme (part.subset hl), h.disjoint.sublist part.sublist⟩

theorem Ordered.before {mark : Lexeme} (h : Ordered (front ++ mark :: back)) : Ordered front :=
  h.part (List.prefix_append _ _).isInfix

theorem Ordered.behind {mark : Lexeme} (h : Ordered (front ++ mark :: back)) : Ordered back :=
  h.part ⟨front ++ [mark], [], by simp⟩

theorem Ordered.enclosed {opening closing : Lexeme} (h : Ordered (opening :: front ++ [closing])) :
    Ordered front :=
  h.part ⟨[opening], [closing], rfl⟩

/-- A range from the first of the tokens to the last. -/
structure Runs (tokens : List Lexeme) (s : Span) : Prop where
  start : ∃ first rest, tokens = first :: rest ∧ first.span.start = s.start
  stop : ∃ before last, tokens = before ++ [last] ∧ last.span.stop = s.stop

theorem Runs.single (lexeme : Lexeme) : Runs [lexeme] lexeme.span :=
  ⟨⟨lexeme, [], rfl, rfl⟩, ⟨[], lexeme, rfl, rfl⟩⟩

/-- All tokens lie inside the range that runs along them. -/
theorem Runs.inside (h : Runs tokens s) (ordered : Ordered tokens) {lexeme : Lexeme}
    (hl : lexeme ∈ tokens) : lexeme.span.Inside s := by
  constructor
  · obtain ⟨first, rest, rfl, start⟩ := h.start
    have forward := ordered.forward first List.mem_cons_self
    rcases List.mem_cons.mp hl with rfl | later
    · exact start.ge
    · have behind := List.rel_of_pairwise_cons ordered.disjoint later
      omega
  · obtain ⟨before, last, rfl, stop⟩ := h.stop
    have forward := ordered.forward last (List.mem_append_right _ List.mem_cons_self)
    rcases List.mem_append.mp hl with earlier | same
    · have behind := (List.pairwise_append.mp ordered.disjoint).2.2 _ earlier last List.mem_cons_self
      omega
    · rw [List.mem_singleton.mp same]
      exact stop.le

/-- What runs along a part of the tokens lies inside what runs along all of them. -/
theorem Runs.part (h : Runs piece a) (hwhole : Runs whole s) (ordered : Ordered whole)
    (part : piece <:+: whole) : a.Inside s := by
  obtain ⟨first, rest, split, start⟩ := h.start
  obtain ⟨before, last, split', stop⟩ := h.stop
  have hfirst : first ∈ piece := split ▸ List.mem_cons_self
  have hlast : last ∈ piece := split' ▸ List.mem_append_right _ List.mem_cons_self
  exact ⟨start ▸ (hwhole.inside ordered (part.subset hfirst)).start,
    stop ▸ (hwhole.inside ordered (part.subset hlast)).stop⟩

/-- The range from the beginning of what is read first to the end of what is read last. -/
theorem Runs.join (h : Runs front a) (h' : Runs back b) (ordered : Ordered tokens)
    (hfront : front <+: tokens) (hback : back <:+ tokens) : Runs tokens (a.join b) := by
  have whole : Runs tokens ⟨a.start, b.stop⟩ := by
    obtain ⟨first, rest, split, start⟩ := h.start
    obtain ⟨before, last, split', stop⟩ := h'.stop
    obtain ⟨after, hafter⟩ := hfront
    obtain ⟨ahead, hahead⟩ := hback
    refine ⟨⟨first, rest ++ after, ?_, start⟩, ⟨ahead ++ before, last, ?_, stop⟩⟩
    · rw [← hafter, split, List.cons_append]
    · rw [← hahead, split', List.append_assoc]
  have left := h.part whole ordered hfront.isInfix
  have right := h'.part whole ordered hback.isInfix
  have same : a.join b = ⟨a.start, b.stop⟩ := by
    rw [Span.join, Nat.min_eq_left right.start, Nat.max_eq_right left.stop]
  rwa [same]

/-- The range from one bracket to the other. -/
theorem Runs.brackets {opening closing : Lexeme} (ordered : Ordered (opening :: front ++ [closing])) :
    Runs (opening :: front ++ [closing]) (opening.span.join closing.span) :=
  (Runs.single opening).join (Runs.single closing) ordered ⟨front ++ [closing], rfl⟩
    (List.suffix_append _ _)

/-! ## Nested nodes -/

/-- What stands directly below a node lies inside its range. The calls that a node makes are tokens. -/
structure Nested (tokens : List Lexeme) (node : Expr) : Prop where
  children : ∀ child ∈ node.children, child.span.Inside node.span
  places : ∀ place ∈ node.places, place.Inside node.span
  bodies : ∀ call ∈ node.bodies, ∃ lexeme ∈ tokens, lexeme.token = .call call ∧
    lexeme.span.Inside node.span

theorem Nested.mono (h : Nested piece e) (part : piece ⊆ whole) : Nested whole e := by
  refine ⟨h.children, h.places, fun call hcall => ?_⟩
  obtain ⟨lexeme, hl, found⟩ := h.bodies call hcall
  exact ⟨lexeme, part hl, found⟩

/-- An expression that was read from tokens: it runs along them, and its nodes are nested. -/
structure Sits (tokens : List Lexeme) (e : Expr) : Prop where
  runs : Runs tokens e.span
  nested : ∀ node, Expr.NodeOf node e → Nested tokens node

/-- An expression that was read from somewhere in a piece. -/
def Lies (piece : List Lexeme) (e : Expr) : Prop :=
  ∃ part, part <:+: piece ∧ Sits part e

theorem Sits.lies (h : Sits piece e) : Lies piece e :=
  ⟨piece, List.infix_rfl, h⟩

theorem Lies.mono (h : Lies piece e) (part : piece <:+: whole) : Lies whole e := by
  obtain ⟨smaller, hsmaller, sits⟩ := h
  exact ⟨smaller, hsmaller.trans part, sits⟩

/-- What lies in front of a token. -/
theorem Lies.before (h : Lies front e) (mark : Lexeme) (back : List Lexeme) :
    Lies (front ++ mark :: back) e :=
  h.mono (List.prefix_append _ _).isInfix

/-- What lies behind a token. -/
theorem Lies.behind (h : Lies back e) (front : List Lexeme) (mark : Lexeme) :
    Lies (front ++ mark :: back) e :=
  h.mono ⟨front ++ [mark], [], by simp⟩

/-! ## One lemma for each shape of rule -/

/-- A node over parts of its piece. An operator stands on one token or on two. -/
theorem Sits.of_parts (ordered : Ordered piece) (runs : Runs piece e.span)
    (children : ∀ child ∈ e.children, Lies piece child)
    (places : ∀ place ∈ e.places, ∃ first ∈ piece, ∃ second ∈ piece, place = first.span.join second.span)
    (bodies : ∀ call ∈ e.bodies, ∃ lexeme ∈ piece, lexeme.token = .call call) : Sits piece e := by
  refine ⟨runs, Expr.forall_nodeOf_iff.mpr ⟨⟨?_, ?_, ?_⟩, ?_⟩⟩
  · intro child hchild
    obtain ⟨part, hpart, sits⟩ := children child hchild
    exact sits.runs.part runs ordered hpart
  · intro place hplace
    obtain ⟨first, hfirst, second, hsecond, rfl⟩ := places place hplace
    exact (runs.inside ordered hfirst).join (runs.inside ordered hsecond)
  · intro call hcall
    obtain ⟨lexeme, hl, token⟩ := bodies call hcall
    exact ⟨lexeme, hl, token, runs.inside ordered hl⟩
  · intro child hchild node hnode
    obtain ⟨part, hpart, sits⟩ := children child hchild
    exact (sits.nested node hnode).mono hpart.subset

/-- A token by itself. -/
theorem Sits.leaf {lexeme : Lexeme} (ordered : Ordered [lexeme]) (leaf : lexeme.leaf? = some e) :
    Sits [lexeme] e := by
  obtain ⟨v, rfl⟩ | ⟨path, rfl⟩ := Lexeme.cases_of_leaf? leaf
  · exact .of_parts ordered (Runs.single lexeme) nofun nofun nofun
  · exact .of_parts ordered (Runs.single lexeme) nofun nofun nofun

/-- A sign in front of an operand. -/
theorem Sits.signed {lexeme : Lexeme} (ordered : Ordered (lexeme :: front)) (operand : Sits front x)
    (sign : Prefix) : Sits (lexeme :: front) (.unary (lexeme.span.join x.span) sign x) := by
  have behind : front <:+ lexeme :: front := List.suffix_cons _ _
  have runs := (Runs.single lexeme).join operand.runs ordered ⟨front, rfl⟩ behind
  refine .of_parts ordered runs ?_ nofun nofun
  exact List.forall_mem_singleton.mpr (operand.lies.mono behind.isInfix)

/-- Brackets around what is below the node. -/
theorem Sits.bracketed {opening closing : Lexeme} (ordered : Ordered (opening :: front ++ [closing]))
    (span : e.span = opening.span.join closing.span) (children : ∀ child ∈ e.children, Lies front child)
    (places : e.places = []) (bodies : e.bodies = []) : Sits (opening :: front ++ [closing]) e := by
  refine .of_parts ordered (span ▸ .brackets ordered) ?_ (by simp [places]) (by simp [bodies])
  exact fun child hchild => ((children child hchild).before closing []).behind [] opening

/-- Parentheses, which widen the range of an expression. -/
theorem Sits.widened {opening closing : Lexeme} (ordered : Ordered (opening :: front ++ [closing]))
    (content : Sits front x) :
    Sits (opening :: front ++ [closing]) (x.withSpan (opening.span.join closing.span)) := by
  have inner : front <:+: opening :: front ++ [closing] := ⟨[opening], [closing], rfl⟩
  have inside := content.runs.part (.brackets ordered) ordered inner
  obtain ⟨top, below⟩ := Expr.forall_nodeOf_iff.mp content.nested
  refine ⟨by rw [Expr.span_withSpan]; exact .brackets ordered,
    Expr.forall_nodeOf_iff.mpr ⟨⟨?_, ?_, ?_⟩, ?_⟩⟩
  · rw [Expr.children_withSpan, Expr.span_withSpan]
    exact fun child hchild => (top.children child hchild).trans inside
  · rw [Expr.places_withSpan, Expr.span_withSpan]
    exact fun place hplace => (top.places place hplace).trans inside
  · rw [Expr.bodies_withSpan, Expr.span_withSpan]
    intro call hcall
    obtain ⟨lexeme, hl, token, within⟩ := top.bodies call hcall
    exact ⟨lexeme, inner.subset hl, token, within.trans inside⟩
  · rw [Expr.children_withSpan]
    exact fun child hchild node hnode => (below child hchild node hnode).mono inner.subset

/-- A node whose first operand stands in front of a token. It ends with something that the rest of the tokens
end with, and all else below it lies in the rest. -/
theorem Sits.infixed {mark : Lexeme} {rest : List Lexeme} {l : Expr} {others : List Expr}
    (ordered : Ordered (front ++ mark :: rest)) (left : Sits front l) (right : Runs back b)
    (last : back <:+ rest) (span : e.span = l.span.join b) (children : e.children = l :: others)
    (below : ∀ child ∈ others, Lies rest child)
    (places : ∀ place ∈ e.places, ∃ lexeme ∈ mark :: rest, place = mark.span.join lexeme.span)
    (bodies : ∀ call ∈ e.bodies, ∃ lexeme ∈ rest, lexeme.token = .call call) :
    Sits (front ++ mark :: rest) e := by
  have ends : back <:+ front ++ mark :: rest :=
    last.trans ((List.suffix_cons _ _).trans (List.suffix_append _ _))
  have runs := left.runs.join right ordered (List.prefix_append _ _) ends
  refine .of_parts ordered (span ▸ runs) ?_ ?_ ?_
  · rw [children]
    exact List.forall_mem_cons.mpr ⟨left.lies.before mark rest,
      fun child hchild => (below child hchild).behind front mark⟩
  · intro place hplace
    obtain ⟨lexeme, hl, same⟩ := places place hplace
    exact ⟨mark, by simp, lexeme, List.mem_append_right _ hl, same⟩
  · intro call hcall
    obtain ⟨lexeme, hl, token⟩ := bodies call hcall
    exact ⟨lexeme, List.mem_append_right _ (List.mem_cons_of_mem _ hl), token⟩

/-! ## Phrases -/

/-- What is known of the expressions of a phrase. -/
def Placed (piece : List Lexeme) : Phrase → Prop
  | .expression e => Sits piece e
  | .items es => ∀ e ∈ es, Lies piece e
  | .entries es => ∀ e ∈ es.flatMap fun entry => [entry.1, entry.2], Lies piece e

/-- **Whatever is spelled by ordered tokens is nested.** By induction over the rules, each of which has one of
the shapes above. -/
theorem placed_of_spells {phrase : Phrase} (h : Spells piece phrase) (ordered : Ordered piece) :
    Placed piece phrase := by
  induction h with
  | leaf leaf => exact .leaf ordered leaf
  | @sign lexeme front sign x _ _ ih =>
      exact .signed ordered (ih (ordered.part (List.suffix_cons _ _).isInfix)) sign
  | paren _ _ _ ih => exact .widened ordered (ih ordered.enclosed)
  | list _ _ _ ih => exact .bracketed ordered rfl (ih ordered.enclosed) rfl rfl
  | mapping _ _ _ ih => exact .bracketed ordered rfl (ih ordered.enclosed) rfl rfl
  | @index opening closing front back t i _ _ _ _ ihTarget ihIndex =>
      rw [List.append_assoc, List.cons_append] at ordered ⊢
      have target : Sits front t := ihTarget ordered.before
      have index : Sits back i := ihIndex ordered.behind.before
      refine .infixed ordered target (Runs.single closing) (List.suffix_append _ _) rfl rfl ?_ nofun nofun
      exact List.forall_mem_singleton.mpr (index.lies.before closing [])
  | @each bang front back c body _ _ _ ihCollection ihBody =>
      have collection : Sits front c := ihCollection ordered.before
      have behind : Sits back body := ihBody ordered.behind
      refine .infixed ordered collection behind.runs List.suffix_rfl rfl rfl ?_ nofun nofun
      exact List.forall_mem_singleton.mpr behind.lies
  | @eachCall bang lexeme front c call _ _ token ih =>
      have collection : Sits front c := ih ordered.before
      refine .infixed ordered collection (Runs.single lexeme) List.suffix_rfl rfl rfl nofun nofun ?_
      exact List.forall_mem_singleton.mpr ⟨lexeme, List.mem_cons_self, token⟩
  | @reduce bar lexeme front back fold l seed signed _ _ _ _ _ _ ihLeft ihSeed ihSigned =>
      have later : back <:+ lexeme :: back := List.suffix_cons _ _
      have left : Sits front l := ihLeft ordered.before
      have right : Sits back seed := ihSeed (ordered.behind.part later.isInfix)
      refine .infixed ordered left right.runs later rfl rfl ?_ ?_ nofun
      · refine List.forall_mem_cons.mpr ⟨right.lies.mono later.isInfix, fun x hx => ?_⟩
        have again : Sits (lexeme :: back) x := ihSigned x (Option.mem_toList.mp hx) ordered.behind
        exact again.lies
      · exact List.forall_mem_singleton.mpr ⟨lexeme, by simp, rfl⟩
  | @binary lexeme front back op l r _ _ _ ihLeft ihRight =>
      have left : Sits front l := ihLeft ordered.before
      have right : Sits back r := ihRight ordered.behind
      refine .infixed ordered left right.runs List.suffix_rfl rfl rfl ?_ ?_ nofun
      · exact List.forall_mem_singleton.mpr right.lies
      · exact List.forall_mem_singleton.mpr ⟨lexeme, List.mem_cons_self, (Span.join_self _).symm⟩
  | @ternary lexeme tilde front middle back op l m r _ _ _ _ _ ihLeft ihMiddle ihRight =>
      have left : Sits front l := ihLeft ordered.before
      have between : Sits middle m := ihMiddle ordered.behind.before
      have right : Sits back r := ihRight ordered.behind.behind
      have last : back <:+ middle ++ tilde :: back := ⟨middle ++ [tilde], by simp⟩
      refine .infixed ordered left right.runs last rfl rfl ?_ ?_ nofun
      · exact List.forall_mem_cons.mpr ⟨between.lies.before tilde back,
          List.forall_mem_singleton.mpr (right.lies.behind middle tilde)⟩
      · exact List.forall_mem_singleton.mpr ⟨lexeme, List.mem_cons_self, (Span.join_self _).symm⟩
  | noItems => exact nofun
  | @lastItem front x _ ih =>
      have item : Sits front x := ih ordered
      exact List.forall_mem_singleton.mpr item.lies
  | @item comma front back x xs _ _ _ ihItem ihItems =>
      have item : Sits front x := ihItem ordered.before
      refine List.forall_mem_cons.mpr ⟨item.lies.before comma back, fun y hy => ?_⟩
      exact Lies.behind (ihItems ordered.behind y hy) front comma
  | noEntries => exact nofun
  | @lastEntry colon front back k x _ _ _ ihKey ihValue =>
      have key : Sits front k := ihKey ordered.before
      have value : Sits back x := ihValue ordered.behind
      exact List.forall_mem_cons.mpr ⟨key.lies.before colon back,
        List.forall_mem_singleton.mpr (value.lies.behind front colon)⟩
  | @entry colon comma front middle back k x es _ _ _ _ _ ihKey ihValue ihEntries =>
      have key : Sits front k := ihKey ordered.before
      have value : Sits middle x := ihValue ordered.behind.before
      refine List.forall_mem_cons.mpr ⟨key.lies.before colon _,
        List.forall_mem_cons.mpr ⟨(value.lies.before comma back).behind front colon, fun y hy => ?_⟩⟩
      exact (Lies.behind (ihEntries ordered.behind.behind y hy) middle comma).behind front colon

/-! ## The tokens of a text -/

/-- A call stands where its token does. -/
def CallsInPlace (tokens : List Lexeme) : Prop :=
  ∀ lexeme ∈ tokens, ∀ call, lexeme.token = .call call → call.span = lexeme.span

/-- The tokens of a text stand one behind the other, and so do its calls. -/
theorem ordered_of_tokens {f : Fragment} {lexemes : List Lexeme} (h : Lexer.tokens f = .ok lexemes) :
    Ordered lexemes ∧ CallsInPlace lexemes := by
  obtain ⟨cut, -⟩ := Lexer.tokens_eq_ok_iff.mp h
  refine ⟨⟨fun l hl => ?_, cut.disjoint.2⟩, fun l hl call token => (Lexer.tokens_source h hl token).1⟩
  obtain ⟨piece, -, stands⟩ := cut.stands l hl
  rw [← stands.span]
  exact Nat.le_add_right _ _

/-- Expanding calls changes nothing about this. -/
theorem ordered_of_expanded {lexemes : List Lexeme}
    (h : List.Forall₂ Expansion.Expanded lexemes tokens) (before : Ordered lexemes ∧ CallsInPlace lexemes) :
    Ordered tokens ∧ CallsInPlace tokens := by
  obtain ⟨ordered, inPlace⟩ := before
  have spans := Expansion.spans_of_expanded h
  refine ⟨⟨?_, ?_⟩, ?_⟩
  · have forward : ∀ s ∈ lexemes.map Lexeme.span, s.start ≤ s.stop := List.forall_mem_map.mpr ordered.forward
    rw [← spans] at forward
    exact List.forall_mem_map.mp forward
  · have disjoint : (lexemes.map Lexeme.span).Pairwise fun first second => first.stop ≤ second.start :=
      List.pairwise_map.mpr ordered.disjoint
    rw [← spans] at disjoint
    exact List.pairwise_map.mp disjoint
  · intro l hl call token
    exact inPlace l (Expansion.mem_of_expanded h hl (by simp [token])) call token

/-- Calls that stand where their tokens do lie inside the node that makes them. -/
theorem Nested.call_inside (h : Nested tokens e) (inPlace : CallsInPlace tokens) {call : Call}
    (hcall : call ∈ e.bodies) : call.span.Inside e.span := by
  obtain ⟨lexeme, hl, token, inside⟩ := h.bodies call hcall
  rwa [inPlace lexeme hl call token]

/-- What ordered tokens are parsed to is nested. -/
theorem sits_of_parse {span : Span} (ordered : Ordered tokens) (h : parse tokens span = .ok e) :
    Sits tokens e :=
  placed_of_spells (spells_of_parse h) ordered

/-- **The ranges of an expression are nested.** Its range goes from the first token to the last. For every
node, the ranges of the expressions and of the operator below it lie inside the node's own range, and so does
the token of a call that is made for each element of a collection.

The call says itself where it stands, and lies inside the node as well if it stands where its token does. For
the tokens of a text this is so, before and after calls are expanded, and they are in order. -/
theorem spans_nested :
    (∀ tokens span e, Ordered tokens → parse tokens span = .ok e →
      (∃ first last, tokens.head? = some first ∧ tokens.getLast? = some last ∧
        e.span = ⟨first.span.start, last.span.stop⟩) ∧
      ∀ node, Expr.NodeOf node e →
        (∀ child ∈ node.children, child.span.Inside node.span) ∧
        (∀ place ∈ node.places, place.Inside node.span) ∧
        (∀ call ∈ node.bodies, ∃ lexeme ∈ tokens, lexeme.token = .call call ∧
          lexeme.span.Inside node.span) ∧
        (CallsInPlace tokens → ∀ call ∈ node.bodies, call.span.Inside node.span)) ∧
    ∀ f lexemes tokens, Lexer.tokens f = .ok lexemes →
      (tokens = lexemes ∨
        ∃ call s p q, (Expansion.expandCalls call false lexemes).runIn s p = (.ok tokens, q)) →
      Ordered tokens ∧ CallsInPlace tokens ∧ ∀ span e, parse tokens span = .ok e →
        ∀ node, Expr.NodeOf node e → ∀ call ∈ node.bodies, call.span.Inside node.span := by
  constructor
  · intro tokens span e ordered h
    have sits := sits_of_parse ordered h
    constructor
    · obtain ⟨first, rest, split, start⟩ := sits.runs.start
      obtain ⟨before, last, split', stop⟩ := sits.runs.stop
      refine ⟨first, last, by rw [split, List.head?_cons], by rw [split', List.getLast?_concat], ?_⟩
      rw [start, stop]
    · intro node hnode
      have nested := sits.nested node hnode
      exact ⟨nested.children, nested.places, nested.bodies, fun inPlace _ => nested.call_inside inPlace⟩
  · intro f lexemes tokens read made
    have both : Ordered tokens ∧ CallsInPlace tokens := by
      rcases made with rfl | ⟨call, s, p, q, ran⟩
      · exact ordered_of_tokens read
      · exact ordered_of_expanded (Expansion.expanded_of_expandCalls false ran) (ordered_of_tokens read)
    refine ⟨both.1, both.2, ?_⟩
    intro span e h node hnode call hcall
    exact ((sits_of_parse both.1 h).nested node hnode).call_inside both.2 hcall

/-- A map with a call for its body, in front of a fold that can be read in two ways. -/
def foldedText : Fragment := .ofString "[1]!(f~) | -2"

/-- The tokens of `foldedText`. -/
def foldedCalls : List Lexeme :=
  [⟨.mark .openBracket, ⟨0, 1⟩⟩, ⟨.value (.int 1), ⟨1, 2⟩⟩, ⟨.mark .closeBracket, ⟨2, 3⟩⟩,
    ⟨.mark .bang, ⟨3, 4⟩⟩, ⟨.call ⟨"f", [], ⟨4, "(f~)".toList⟩⟩, ⟨4, 8⟩⟩, ⟨.operator .bar, ⟨9, 10⟩⟩,
    ⟨.operator .minus, ⟨11, 12⟩⟩, ⟨.value (.int 2), ⟨12, 13⟩⟩]

/-- The tree of `foldedCalls`. The sign and the number behind it are read twice. -/
def foldedTree : Expr :=
  .reduce ⟨0, 13⟩ .minus ⟨9, 12⟩
    (.eachCall ⟨0, 8⟩ (.list ⟨0, 3⟩ [.literal ⟨1, 2⟩ (.int 1)]) ⟨"f", [], ⟨4, "(f~)".toList⟩⟩)
    (.literal ⟨12, 13⟩ (.int 2))
    (some (.unary ⟨11, 13⟩ .negate (.literal ⟨12, 13⟩ (.int 2))))

theorem foldedTree_nested : Lexer.tokens foldedText = .ok foldedCalls ∧ Ordered foldedCalls ∧
    parse foldedCalls ⟨0, 13⟩ = .ok foldedTree ∧
    ∀ node, Expr.NodeOf node foldedTree →
      (∀ child ∈ node.children, child.span.Inside node.span) ∧
      (∀ place ∈ node.places, place.Inside node.span) ∧
      ∀ call ∈ node.bodies, call.span.Inside node.span := by
  have read : Lexer.tokens foldedText = .ok foldedCalls := rfl
  have parsed : parse foldedCalls ⟨0, 13⟩ = .ok foldedTree := rfl
  obtain ⟨nested, texts⟩ := spans_nested
  obtain ⟨ordered, -, calls⟩ := texts _ _ _ read (.inl rfl)
  obtain ⟨-, nodes⟩ := nested _ _ _ ordered parsed
  refine ⟨read, ordered, parsed, fun node hnode => ?_⟩
  obtain ⟨children, places, -⟩ := nodes node hnode
  exact ⟨children, places, calls _ _ parsed node hnode⟩

end Parser

end Fiction
