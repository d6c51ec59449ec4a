import Fiction.Proofs.Expansion.Unrolled
import Fiction.Proofs.Session.Run

/-!
# Fiction.Proofs.Session.SelfInclusion

Nodes that include themselves, and that expansion ends for every story.

* `IncludesItself` is a node whose text is plain text and then a call of the node itself.
* `Descent` is what becomes of such a call: level by level its arguments are evaluated and the node is
  entered, until the arguments fail or no level is left.
* `exists_descent`: the call fails for the cause in which its descent ends.
* `expansion_ends_at_limit` puts this together with the bounds on expansion.
-/

namespace Fiction

namespace Expansion

/-! ## Failures at a state -/

variable {α β : Type} {s : Setting} {p q : Progress} {cause : Cause}

/-- Run at `p`, `x` fails for a cause. -/
def FailsWith (s : Setting) (p : Progress) (x : Expansion α) (cause : Cause) : Prop :=
  ∃ fault, (x.runIn s p).1 = .error fault ∧ fault.cause = cause

/-- Nothing runs behind a failure. -/
theorem FailsWith.bind {x : Expansion α} (hx : FailsWith s p x cause) (f : α → Expansion β) :
    FailsWith s p (x >>= f) cause := by
  obtain ⟨fault, hfault, hcause⟩ := hx
  refine ⟨fault, ?_, hcause⟩
  rw [runIn_bind]
  rcases h : x.runIn s p with ⟨r, q⟩
  rw [h] at hfault
  cases hfault
  rfl

/-- A sequence fails if its second part does. -/
theorem FailsWith.after {x : Expansion α} {a : α} {f : α → Expansion β}
    (hx : x.runIn s p = (.ok a, q)) (hf : FailsWith s q (f a) cause) :
    FailsWith s p (x >>= f) cause := by
  obtain ⟨fault, hfault, hcause⟩ := hf
  refine ⟨fault, ?_, hcause⟩
  rw [runIn_bind, hx]
  exact hfault

theorem FailsWith.mapFault {x : Expansion α} {h : Fault → Fault}
    (hcause : ∀ fault, (h fault).cause = fault.cause) (hx : FailsWith s p x cause) :
    FailsWith s p (mapFault h x) cause := by
  obtain ⟨fault, hfault, rfl⟩ := hx
  refine ⟨h fault, ?_, hcause fault⟩
  rw [runIn_mapFault, hfault]
  rfl

theorem FailsWith.borrowing {x : Expansion α} {enter : Progress → Progress}
    {leave : Progress → Progress → Progress} (hx : FailsWith s (enter p) x cause) :
    FailsWith s p (borrowing enter leave x) cause :=
  hx

/-- Plain text in front of a call that fails does not help: it leaves the state as it is. -/
theorem segments_failsWith {call : Caller} {expand : Fragment → Expansion String} {c : Call}
    (hcall : FailsWith s p (call c) cause) {front : List Segment}
    (hfront : ∀ segment ∈ front, segment.isText = true) (back : List Segment) :
    FailsWith s p (segments call expand (front ++ .call c :: back)) cause := by
  induction front with
  | nil => exact hcall.bind _
  | cons segment front ih =>
      have tail := ih fun other ho => hfront other (List.mem_cons_of_mem _ ho)
      cases segment with
      | text f => exact tail.bind _
      | call _ | link _ => cases hfront _ List.mem_cons_self

/-! ## Nodes that include themselves -/

/-- A node whose text is plain text and then a call of the node itself, whatever follows. -/
structure IncludesItself (story : Story) (library : Library) (content : String) (c : Call) :
    Prop where
  /-- The name of the call stands for the node. -/
  free : library.find? c.name = none
  /-- The text of the node. -/
  node : story.node? c.name = some (.markup content)
  /-- Only plain text is in front of the call. -/
  text : ∃ front back, Markup.scan (.ofString content) = .ok (front ++ .call c :: back) ∧
    ∀ segment ∈ front, segment.isText = true

/-- What becomes of a call of the node it stands in, with a number of levels left at a state, and the
cause in which it ends. -/
inductive Descent (s : Setting) (content : String) (c : Call) : Nat → Progress → Cause → Prop
  /-- No level is left. -/
  | limit (p : Progress) : Descent s content c 0 p (.recursionLimit s.limit)
  /-- The arguments of the call fail. -/
  | argument {room : Nat} {p q : Progress} {fault : Fault} :
      (inclusionContext (callWith room) c).runIn s p.deeper = (.error fault, q) →
      Descent s content c (room + 1) p fault.cause
  /-- The node is entered, and the same call is made with a level less. -/
  | enter {room : Nat} {p q : Progress} {context : List Value} {cause : Cause} :
      (inclusionContext (callWith room) c).runIn s p.deeper = (.ok context, q) →
      Descent s content c room (q.enter ⟨c.name, content⟩ context) cause →
      Descent s content c (room + 1) p cause

variable {content : String} {c : Call}

/-- The text of the node fails as the call in it does. -/
theorem IncludesItself.markup_failsWith (h : IncludesItself s.story s.library content c)
    {call : Caller} (hcall : FailsWith s p (call c) cause) :
    FailsWith s p (markup call (.ofString content)) cause := by
  obtain ⟨front, back, hscan, hfront⟩ := h.text
  unfold markup nestedMarkup
  rw [hscan]
  exact segments_failsWith hcall hfront back

/-- Calling the node evaluates the arguments and expands its text. -/
theorem IncludesItself.runIn_dispatch (h : IncludesItself s.story s.library content c)
    (call : Caller) :
    (dispatch call c).runIn s p =
      (inclusionContext call c >>= inclusion call c.name (.markup content)).runIn s p := by
  unfold dispatch
  rw [runIn_bind, runIn_read]
  dsimp only
  rw [h.free]
  dsimp only
  rw [h.node]

/-- **A call of the node it stands in fails for the cause in which its descent ends.** By induction on
the levels left. -/
theorem exists_descent (h : IncludesItself s.story s.library content c) (room : Nat)
    (p : Progress) :
    ∃ cause, Descent s content c room p cause ∧ FailsWith s p (callWith room c) cause := by
  induction room generalizing p with
  | zero => exact ⟨_, .limit p, _, rfl, rfl⟩
  | succ room ih =>
      -- coming back from the level keeps the cause
      have level {cause : Cause}
          (hrest : FailsWith s p.deeper
            (inclusionContext (callWith room) c >>=
              inclusion (callWith room) c.name (.markup content)) cause) :
          FailsWith s p (callWith (room + 1) c) cause := by
        refine FailsWith.mapFault (fun _ => rfl) (FailsWith.borrowing ?_)
        unfold FailsWith
        rw [h.runIn_dispatch]
        exact hrest
      rcases hargs : (inclusionContext (callWith room) c).runIn s p.deeper with ⟨r, q⟩
      cases r with
      | error fault =>
          have failed : FailsWith s p.deeper (inclusionContext (callWith room) c) fault.cause :=
            ⟨fault, by rw [hargs], rfl⟩
          exact ⟨_, .argument hargs, level (failed.bind _)⟩
      | ok context =>
          obtain ⟨cause, descent, failed⟩ := ih (q.enter ⟨c.name, content⟩ context)
          refine ⟨cause, .enter hargs descent, level (FailsWith.after hargs ?_)⟩
          refine FailsWith.mapFault (fun _ => rfl) (FailsWith.borrowing ?_)
          exact (h.markup_failsWith failed).bind _

/-- The call, and the text of the node, with all the levels that are left. -/
theorem exists_descent_top (h : IncludesItself s.story s.library content c) (p : Progress) :
    ∃ cause, Descent s content c (s.limit - p.depth) p cause ∧
      FailsWith s p (callTop c) cause ∧ FailsWith s p (markupTop (.ofString content)) cause := by
  obtain ⟨cause, descent, failed⟩ := exists_descent h (s.limit - p.depth) p
  refine ⟨cause, descent, ?_, ?_⟩
  · unfold callTop FailsWith
    rw [runIn_room]
    exact failed
  · unfold markupTop FailsWith
    rw [runIn_room]
    exact h.markup_failsWith failed

/-- The arguments of a call fail at most at the limit, whatever the state and the levels left. -/
def ArgumentsFailAtLimit (s : Setting) (c : Call) : Prop :=
  ∀ room p fault, ((inclusionContext (callWith room) c).runIn s p).1 = .error fault →
    fault.cause = .recursionLimit s.limit

/-- Blank arguments do not fail. -/
theorem runIn_inclusionContext_of_blank (call : Caller) (hargs : ∀ arg ∈ c.args, arg.isBlank = true)
    (p : Progress) : ∃ values, (inclusionContext call c).runIn s p = (.ok values, p) := by
  unfold inclusionContext
  generalize c.args = args at hargs
  induction args with
  | nil => exact ⟨[], rfl⟩
  | cons arg args ih =>
      obtain ⟨values, hvalues⟩ := ih fun other ho => hargs other (List.mem_cons_of_mem _ ho)
      refine ⟨.null :: values, ?_⟩
      rw [List.mapM_cons, if_pos (hargs arg List.mem_cons_self), runIn_bind, runIn_pure]
      dsimp only
      rw [runIn_bind, hvalues]
      rfl

theorem argumentsFailAtLimit_of_blank (hargs : ∀ arg ∈ c.args, arg.isBlank = true) :
    ArgumentsFailAtLimit s c := by
  intro room p fault failed
  obtain ⟨values, hvalues⟩ := runIn_inclusionContext_of_blank (s := s) (callWith room) hargs p
  rw [hvalues] at failed
  cases failed

/-- Where the arguments do not fail otherwise, a descent ends at the limit. -/
theorem Descent.eq_limit (hargs : ArgumentsFailAtLimit s c) {room : Nat}
    (h : Descent s content c room p cause) : cause = .recursionLimit s.limit := by
  induction h with
  | limit p => rfl
  | argument failed => exact hargs _ _ _ (congrArg Prod.fst failed)
  | enter _ _ ih => exact ih

/-! ## Everything ends -/

/-- The expansion of a text ends, and so do the parts it is made of: what is done at the cut of an
unrolled recursion, and above the limit, does not matter. -/
structure Ends (s : Setting) (p : Progress) (f : Fragment) : Prop where
  /-- Calls in markup. -/
  markup : ∀ beyond bottom n, s.limit - p.depth < n →
    (markup (unrolled beyond bottom n) f).runIn s p = (markupTop f).runIn s p
  /-- Calls in an expression. -/
  evaluate : ∀ beyond bottom n, s.limit - p.depth < n →
    (evaluate (unrolled beyond bottom n) f).runIn s p = (evaluateTop f).runIn s p
  /-- Links. -/
  links : ∀ call bottom n, f.chars.length < n →
    unrolledMarkup call bottom n f = Expansion.markup call f
  /-- Calls behind `!`, whose texts are evaluated once more and on the same level. -/
  deferred : ∀ call bottom n, f.chars.length < n →
    unrolledEvaluate call bottom n f = Expansion.evaluate call f
  /-- The tokens of an expression. -/
  tokens : ∀ n, f.chars.length < n →
    Lexer.tokensFrom n f.offset f.chars = Lexer.tokensFrom (f.chars.length + 1) f.offset f.chars
  /-- Parsing. -/
  parsing : ∀ stop least tokens n, Parser.depthFor tokens ≤ n →
    Parser.expression stop n least tokens =
      Parser.expression stop (Parser.depthFor tokens) least tokens

theorem ends (s : Setting) (p : Progress) (f : Fragment) : Ends s p f where
  markup beyond bottom _ hn := (unrolled_eq beyond bottom hn f).1
  evaluate beyond bottom _ hn := (unrolled_eq beyond bottom hn f).2
  links _ bottom _ hn := unrolledMarkup_eq bottom hn
  deferred _ bottom _ hn := unrolledEvaluate_eq bottom hn
  tokens _ hn := Lexer.tokensFrom_bound hn (Nat.lt_succ_self _)
  parsing stop least _ _ hn := Parser.expression_bound stop least hn

end Expansion

namespace Session

open Expansion

variable {s : Session} {content : String} {c : Call} {cause : Cause}

/-- A node whose text fails is not rendered. -/
theorem renderIn_of_failsWith {name : String} (hnode : s.story.node? name = some (.markup content))
    {world : World} {context : List Value}
    (h : FailsWith s.setting (arrival world name content context) (markupTop (.ofString content))
      cause) :
    ∃ fault, (s.renderIn world name context).1 = .error fault ∧ fault.cause = cause := by
  obtain ⟨fault, hfault, rfl⟩ := h
  refine ⟨fault.inNode name, ?_, rfl⟩
  rw [renderIn_markup hnode]
  split
  · next heq => cases (congrArg Prod.fst heq).symm.trans hfault
  · next heq =>
      cases (congrArg Prod.fst heq).symm.trans hfault
      rfl

theorem render_of_renderIn {name : String} {fault : Fault}
    (h : (s.renderIn s.world name []).1 = .error fault) : (s.render name).1 = .error fault := by
  unfold render transaction
  dsimp only
  rcases hwork : s.renderIn s.world name [] with ⟨r, world⟩
  rw [hwork] at h
  cases h
  rfl

/-- **Expansion ends, within the limit.** Whatever the story, the text and the state, the recursion
behind markup and expressions comes to an end, and nothing runs above the limit. A node that includes
itself unconditionally fails, from every state and with every limit: at the limit, unless the
arguments of its own call fail at one of the levels. -/
theorem expansion_ends_at_limit :
    (∀ s p f, Ends s p f) ∧
    (∀ (s : Setting) (content : String) (c : Call), IncludesItself s.story s.library content c →
      ∀ p, ∃ cause, Descent s content c (s.limit - p.depth) p cause ∧
        FailsWith s p (callTop c) cause ∧ FailsWith s p (markupTop (.ofString content)) cause) ∧
    (∀ (s : Session) (content : String) (c : Call), IncludesItself s.story s.library content c →
      ∃ fault, (s.render c.name).1 = .error fault ∧ s.preview c.name = .error fault ∧
        Descent s.setting content c s.settings.maxDepth (arrival s.world c.name content [])
          fault.cause) ∧
    ∀ s content c room p cause, Descent s content c room p cause →
      (∀ arg ∈ c.args, arg.isBlank = true) ∨ ArgumentsFailAtLimit s c →
      cause = .recursionLimit s.limit := by
  refine ⟨ends, fun s content c h => exists_descent_top h, fun s content c h => ?_,
    fun s content c room p cause h hargs => h.eq_limit (hargs.elim argumentsFailAtLimit_of_blank id)⟩
  have loops : IncludesItself s.setting.story s.setting.library content c := h
  obtain ⟨cause, descent, -, failed⟩ :=
    exists_descent_top loops (arrival s.world c.name content [])
  obtain ⟨fault, hfault, rfl⟩ := renderIn_of_failsWith h.node failed
  exact ⟨fault, render_of_renderIn hfault, hfault, descent⟩

/-- A playthrough of a story with one node. -/
def loopSession (content : String) : Session where
  story := { Story.new "loop" with nodes := [("loop", .markup content)] }
  library := .standard
  settings := { maxDepth := 8 }
  world := .start .empty (some 7) default

/-- Without arguments the node fails at the limit. -/
theorem loop_ends_at_limit :
    ∃ fault, ((loopSession "again (loop~)").render "loop").1 = .error fault ∧
      fault.cause = .recursionLimit 8 := by
  have loops : IncludesItself (loopSession "again (loop~)").story .standard "again (loop~)"
      ⟨"loop", [], ⟨6, "(loop~)".toList⟩⟩ :=
    ⟨by decide, rfl, [.text ⟨0, "again ".toList⟩], [], by decide +kernel, by decide⟩
  obtain ⟨-, -, sessions, limit⟩ := expansion_ends_at_limit
  obtain ⟨fault, failed, -, descent⟩ := sessions _ _ _ loops
  exact ⟨fault, failed, limit _ _ _ _ _ _ descent (.inl (by decide))⟩

/-- An argument that fails comes first: the limit is not reached. -/
theorem loop_with_failing_argument :
    IncludesItself (loopSession "again (loop~ gold)").story .standard "again (loop~ gold)"
        ⟨"loop", [⟨12, " gold".toList⟩], ⟨6, "(loop~ gold)".toList⟩⟩ ∧
      ((loopSession "again (loop~ gold)").perform (.render "loop")).1.fault?.map Fault.cause =
        some (.undefined "gold") ∧
      Cause.undefined "gold" ≠ .recursionLimit 8 := by
  refine ⟨⟨by decide, rfl, [.text ⟨0, "again ".toList⟩], [], by decide +kernel, by decide⟩,
    by decide +kernel, by decide⟩

end Session

end Fiction
