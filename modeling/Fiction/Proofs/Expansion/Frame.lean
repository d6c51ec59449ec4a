import Fiction.Proofs.Expansion.FrameRule

/-!
# Fiction.Proofs.Expansion.Frame

**Expansion gives back all that it borrows.** Calls go a level deeper, maps push bindings, inclusions
and commands turn to another text, and each of them can fail half-way.

* `Progress.Restored` relates two progresses that differ at most in variables, in chance and in links
  that were added. All of expansion keeps it, whatever the story, the library and the text.
* `inclusion_restores` is more precise about a node that is included: the node that includes it has
  its own variables and links back, whatever the other one wrote, linked to or failed on.
-/

namespace Fiction

/-- What was borrowed is given back, the links are still there and the playthrough has not moved. -/
structure Progress.Restored (before after : Progress) : Prop where
  depth : after.depth = before.depth
  source : after.source = before.source
  phase : after.phase = before.phase
  bindings : after.scope.bindings = before.scope.bindings
  surroundings : after.scope.surroundings = before.scope.surroundings
  links : before.links <+: after.links
  visits : after.world.visits = before.world.visits
  current : after.world.current = before.world.current
  status : after.world.status = before.world.status

namespace Progress.Restored

instance : IsPreorder Progress Restored where
  refl _ := ⟨rfl, rfl, rfl, rfl, rfl, List.prefix_rfl, rfl, rfl, rfl⟩
  trans _ _ _ h k :=
    ⟨k.depth.trans h.depth, k.source.trans h.source, k.phase.trans h.phase,
      k.bindings.trans h.bindings, k.surroundings.trans h.surroundings, h.links.trans k.links,
      k.visits.trans h.visits, k.current.trans h.current, k.status.trans h.status⟩

variable {p q : Progress}

theorem addLink (p : Progress) (l : Link) : Restored p (p.addLink l) :=
  ⟨rfl, rfl, rfl, rfl, rfl, List.prefix_append _ _, rfl, rfl, rfl⟩

theorem pop {frame : Mapping Value} (h : Restored (p.push frame) q) : Restored p q.pop :=
  { h with bindings := congrArg List.tail h.bindings }

theorem shallower (h : Restored p.deeper q) : Restored p q.shallower :=
  { h with depth := congrArg Nat.pred h.depth }

theorem leaveCommand {command : String} (h : Restored (p.enterCommand command) q) :
    Restored p (q.leaveCommand p) :=
  { h with source := rfl }

/-- The links of an included node are those behind the ones there were, so exactly these go. -/
theorem leave_links {source : Source} {context : List Value} (h : Restored (p.enter source context) q) :
    (q.leave p).links = p.links :=
  (List.prefix_iff_eq_take.mp h.links).symm

theorem leave {source : Source} {context : List Value} (h : Restored (p.enter source context) q) :
    Restored p (q.leave p) :=
  { h with
    source := rfl
    bindings := rfl
    surroundings := rfl
    links := by rw [h.leave_links] }

end Progress.Restored

namespace Expansion

open Progress (Restored)

theorem restored_writable : Writable Restored where
  stores _ _ _ := ⟨rfl, rfl, rfl, rfl, rfl, List.prefix_rfl, rfl, rfl, rfl⟩
  chance _ _ := ⟨rfl, rfl, rfl, rfl, rfl, List.prefix_rfl, rfl, rfl, rfl⟩

/-- Giving back does not depend on what the texts say. -/
theorem restored_frameRule (s : Setting) : FrameRule Restored (fun _ => True) s where
  piece _ _ := trivial
  nodes _ := trivial
  changes _ _ _ := restored_writable
  link := Restored.addLink
  element := Restored.pop
  level := Restored.shallower
  inclusion := Restored.leave

variable (s : Setting)

theorem callWith_restores (room : Nat) (c : Call) : Keeps Restored s (callWith room c) :=
  keeps_callWith (restored_frameRule s) room c ⟨trivial, trivial, fun _ _ => trivial⟩

theorem markupTop_restores (f : Fragment) : Keeps Restored s (markupTop f) :=
  keeps_markupTop (restored_frameRule s) trivial

theorem evaluateTop_restores (f : Fragment) : Keeps Restored s (evaluateTop f) :=
  keeps_evaluateTop (restored_frameRule s) trivial

theorem callTop_restores (c : Call) : Keeps Restored s (callTop c) :=
  keeps_callTop (restored_frameRule s) ⟨trivial, trivial, fun _ _ => trivial⟩

theorem literalCommand_restores (command : Command) (verb : Verb) (path : Path)
    (value : Option Value) : Keeps Restored s (literalCommand command verb path value) := by
  unfold literalCommand
  split
  · exact keeps_change restored_writable path _
  · exact (keeps_change restored_writable path _).bind fun _ _ => Keeps.pure trivial
  · exact (keeps_change restored_writable path _).bind fun _ _ => Keeps.pure trivial
  · exact Keeps.pure trivial

theorem runCommand_restores (command : Command) : Keeps Restored s (runCommand command) := by
  cases command with
  | call _ source =>
      refine Keeps.borrowing ?_ fun _ _ => Restored.leaveCommand
      exact (markupTop_restores s _).bind fun _ _ => Keeps.pure trivial
  | literal verb path value =>
      refine (literalCommand_restores s _ verb path value).bind fun result _ => ?_
      split
      · exact Keeps.pure trivial
      · exact Keeps.get.bind fun _ _ => Keeps.throw _

/-! ## Inclusions -/

/-- **An inclusion leaves the scope and the links of the including node as they are.** -/
theorem inclusion_restores (room : Nat) (name : String) (node : NodeBody) (context : List Value)
    (p : Progress) :
    ((inclusion (callWith room) name node context).runIn s p).2.scope = p.scope ∧
      ((inclusion (callWith room) name node context).runIn s p).2.links = p.links := by
  cases node with
  | fixed content _ => exact ⟨rfl, rfl⟩
  | markup content =>
      have text : Keeps Restored s (do
          return Value.text (← markup (callWith room) (.ofString content))) :=
        (keeps_markup (restored_frameRule s) (fun c _ => callWith_restores s room c) trivial).bind
          fun _ _ => Keeps.pure trivial
      unfold inclusion
      rw [runIn_mapFault, runIn_borrowing]
      -- the scope is put back as a whole; the links, because the text only added to them
      exact ⟨rfl, (text _).1.leave_links⟩

/-- A call with the name of a node evaluates its arguments and then includes the node. -/
theorem runIn_dispatch_node {call : Caller} {c : Call} {node : NodeBody} {context : List Value}
    {p q : Progress} (hname : s.library.find? c.name = none)
    (hnode : s.story.node? c.name = some node)
    (hargs : (inclusionContext call c).runIn s p = (.ok context, q)) :
    (dispatch call c).runIn s p = (inclusion call c.name node context).runIn s q := by
  unfold dispatch
  rw [runIn_bind, runIn_read]
  dsimp only
  rw [hname]
  dsimp only
  rw [hnode]
  dsimp only
  rw [runIn_bind, hargs]

/-- This happens a level deeper, and then the call comes back. -/
theorem runIn_callWith_node {room : Nat} {c : Call} {node : NodeBody} {context : List Value}
    {p q : Progress} (hname : s.library.find? c.name = none)
    (hnode : s.story.node? c.name = some node)
    (hargs : (inclusionContext (callWith room) c).runIn s p.deeper = (.ok context, q)) :
    ((callWith (room + 1) c).runIn s p).2 =
      ((inclusion (callWith room) c.name node context).runIn s q).2.shallower := by
  rw [callWith, runIn_mapFault, runIn_borrowing, runIn_dispatch_node s hname hnode hargs]

/-- **Everything borrowed is given back**, whether expansion succeeds or fails. Where a call includes a
node, the locals and the links are those of the moment its arguments have been evaluated. -/
theorem expansion_gives_back (p : Progress) :
    (∀ f, Restored p ((markupTop f).runIn s p).2) ∧
      (∀ f, Restored p ((evaluateTop f).runIn s p).2) ∧
      (∀ c, Restored p ((callTop c).runIn s p).2) ∧
      (∀ command, Restored p ((runCommand command).runIn s p).2) ∧
      ∀ room c node context q,
        s.library.find? c.name = none → s.story.node? c.name = some node →
        (inclusionContext (callWith room) c).runIn s p.deeper = (.ok context, q) →
        ((callWith (room + 1) c).runIn s p).2.scope.locals = q.scope.locals ∧
          ((callWith (room + 1) c).runIn s p).2.links = q.links := by
  refine ⟨fun f => (markupTop_restores s f p).1, fun f => (evaluateTop_restores s f p).1,
    fun c => (callTop_restores s c p).1, fun command => (runCommand_restores s command p).1, ?_⟩
  intro room c node context q hname hnode hargs
  obtain ⟨hscope, hlinks⟩ := inclusion_restores s room c.name node context q
  rw [runIn_callWith_node s hname hnode hargs]
  exact ⟨congrArg Scope.locals hscope, hlinks⟩

/-- A node that writes a variable of the node, has a link and then fails. -/
def asideBody : NodeBody :=
  .markup "(set~ _mood ~ 2) [[leave|exit]] (nowhere~)"

/-- A story that has it. -/
def asideSetting : Setting :=
  ⟨{ Story.new "hall" with nodes := [("aside", asideBody)] }, .standard, 10⟩

/-- A node that has set the same variable and has a link of its own. -/
def asideProgress : Progress where
  phase := .render
  source := ⟨"hall", "(aside~ 1)"⟩
  scope := ⟨⟨"hall", none, [], true, [], .unfolding⟩, [], ⟨[("_mood", .int 1)]⟩⟩
  links := [⟨"stay", "hall", [], [], "hall"⟩]
  depth := 0
  world := .start .empty (some 7) default

/-- The call in its text. -/
def asideCall : Call :=
  ⟨"aside", [⟨8, ['1']⟩], .ofString "(aside~ 1)"⟩

/-- The including node still has its variable and its one link. -/
theorem aside_gives_back :
    (inclusionContext (callWith 9) asideCall).runIn asideSetting asideProgress.deeper =
        (.ok [.int 1], asideProgress.deeper) ∧
      ((callWith 10 asideCall).runIn asideSetting asideProgress).2.scope.locals =
        ⟨[("_mood", .int 1)]⟩ ∧
      ((callWith 10 asideCall).runIn asideSetting asideProgress).2.links =
        [⟨"stay", "hall", [], [], "hall"⟩] := by
  have evaluated : (inclusionContext (callWith 9) asideCall).runIn asideSetting
      asideProgress.deeper = (.ok [.int 1], asideProgress.deeper) := rfl
  obtain ⟨-, -, -, -, included⟩ := expansion_gives_back asideSetting asideProgress
  exact ⟨evaluated, included 9 asideCall asideBody _ _ (by decide) rfl evaluated⟩

end Expansion

end Fiction
