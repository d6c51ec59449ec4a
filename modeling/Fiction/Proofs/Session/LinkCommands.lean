import Fiction.Proofs.Expansion.Mirror
import Fiction.Proofs.Session.Run

/-!
# Fiction.Proofs.Session.LinkCommands

**What a link does when it is followed has no effect on rendering.** The commands of links are only
checked when a node is rendered. So long as they pass the check, others can be written in their place,
and all nodes are rendered to the same text, in the same way and with the same links, which only differ
in their commands.

* `Segment.outline` is what is left of a segment without positions and without commands.
* `Story.SameButTraversals node` is two stories with the same nodes, where one node has other commands
  in its links.
-/

namespace Fiction

/-! ## Stories that differ in the commands of links -/

/-- A segment without positions, and without what a link does when it is followed. -/
def Segment.outline : Segment → Segment
  | .text f => .text ⟨0, f.chars⟩
  | .call c => .call ⟨c.name, c.args.map fun arg => ⟨0, arg.chars⟩, ⟨0, c.source.chars⟩⟩
  | .link l => .link ⟨⟨0, l.label.chars⟩, ⟨0, l.target.chars⟩, none, ⟨0, 0⟩⟩

/-- Whether the commands of a link can be read. -/
def Segment.isReadable : Segment → Bool
  | .link l => l.traversal.all fun traversal => (Traversal.commands traversal).isOk
  | .text _ | .call _ => true

/-- Two texts whose segments are the same but for positions and for the commands of links, which can be
read in both. -/
def Fragment.SameButTraversals (f f' : Fragment) : Prop :=
  ∃ parts parts', Markup.scan f = .ok parts ∧ Markup.scan f' = .ok parts' ∧
    parts'.map Segment.outline = parts.map Segment.outline ∧
    parts.all Segment.isReadable ∧ parts'.all Segment.isReadable

/-- Two stories with the same nodes, but for the commands of links in the markup of one. -/
structure Story.SameButTraversals (node : String) (a b : Story) : Prop where
  others : ∀ name, name ≠ node → b.node? name = a.node? name
  changed : ∃ content content', a.node? node = some (.markup content) ∧
    b.node? node = some (.markup content') ∧
    Fragment.SameButTraversals (.ofString content) (.ofString content')

/-- The same session with another story. -/
def Session.withStory (s : Session) (story : Story) : Session :=
  { s with story }

/-- The same node with the same text, and with links that are the same but for the commands of those
from certain nodes. -/
structure Rendered.Alike (changed : String → Prop) (r r' : Rendered) : Prop where
  node : r'.node = r.node
  text : r'.text = r.text
  links : List.Forall₂ (Link.Alike changed) r.links r'.links

/-- Both end the story, or neither does. -/
theorem Rendered.Alike.finish {changed : String → Prop} {r r' : Rendered} (h : Alike changed r r')
    (world : World) : Session.finish world r' = Session.finish world r := by
  have ending : r'.isEnding = r.isEnding := forall₂_isEmpty h.links
  unfold Session.finish
  rw [ending]

/-! ## Segments -/

section

variable {changed : String → Prop} {source : Source}

theorem LinkText.isOk_commands {l : LinkText} (h : (Segment.link l).isReadable) : l.commands.isOk := by
  dsimp only [Segment.isReadable] at h
  unfold LinkText.commands
  cases htraversal : l.traversal with
  | none => rfl
  | some traversal =>
      rw [htraversal] at h
      exact h

/-- Segments with one outline and commands that can be read are the same but for the commands. -/
theorem Segment.alike_of_outline (hchanged : changed source.name) {x x' : Segment}
    (h : x'.outline = x.outline) (hx : x.isReadable) (hx' : x'.isReadable) :
    x.Alike Fragment.SameChars (fun _ _ => True)
      (LinkText.Alike Fragment.SameChars (fun _ _ => True) (CommandsAlike changed source)) x' := by
  cases x with
  | text f =>
      cases x' with
      | text f' =>
          simp only [outline, Segment.text.injEq, Fragment.mk.injEq, true_and] at h
          exact .text h trivial
      | call c' => cases h
      | link l' => cases h
  | call c =>
      cases x' with
      | text f' => cases h
      | link l' => cases h
      | call c' =>
          simp only [outline, Segment.call.injEq, Call.mk.injEq, Fragment.mk.injEq, true_and] at h
          obtain ⟨name, args, whole⟩ := h
          refine .call ⟨name, rfl, whole, ?_⟩
          have same : List.Forall₂ Eq (c.args.map fun arg : Fragment => (⟨0, arg.chars⟩ : Fragment))
              (c'.args.map fun arg : Fragment => (⟨0, arg.chars⟩ : Fragment)) := by
            rw [args]
            exact List.forall₂_same.mpr fun _ _ => rfl
          rw [List.forall₂_map_left_iff, List.forall₂_map_right_iff] at same
          exact same.imp fun _ _ h => (congrArg Fragment.chars h).symm
  | link l =>
      cases x' with
      | text f' => cases h
      | call c' => cases h
      | link l' =>
          simp only [outline, Segment.link.injEq, LinkText.mk.injEq, Fragment.mk.injEq, true_and,
            and_true] at h
          obtain ⟨commands, hcommands⟩ := Outcome.isOk_iff.mp (LinkText.isOk_commands hx)
          obtain ⟨commands', hcommands'⟩ := Outcome.isOk_iff.mp (LinkText.isOk_commands hx')
          refine .link ⟨h.1, h.2, trivial, ?_⟩
          rw [hcommands, hcommands']
          exact .ok fun unchanged => absurd hchanged unchanged

theorem Fragment.SameButTraversals.sameMarkup {f f' : Fragment} (h : f.SameButTraversals f')
    (hchanged : changed source.name) : SameMarkup changed source f f' := by
  obtain ⟨parts, parts', hparts, hparts', outlines, readable, readable'⟩ := h
  rw [SameMarkup, hparts, hparts']
  refine .ok ?_
  clear hparts hparts'
  induction parts generalizing parts' with
  | nil =>
      cases List.map_eq_nil_iff.mp outlines
      exact .nil
  | cons x parts ih =>
      obtain ⟨x', rest', rfl, same, others⟩ := List.map_eq_cons_iff.mp outlines
      rw [List.all_cons, Bool.and_eq_true] at readable readable'
      exact .cons (Segment.alike_of_outline hchanged same readable.1 readable'.1)
        (ih rest' others readable.2 readable'.2)

end

namespace Session

/-! ## Rendering -/

variable {changed : String → Prop} {s s' : Session}

/-- Nodes with the same segments are rendered in the same way, in settings that mirror. -/
theorem renderIn_mirror (h : Setting.Mirror changed s.setting s'.setting)
    {name content content' : String}
    (hnode : s.story.node? name = some (.markup content))
    (hnode' : s'.story.node? name = some (.markup content'))
    (hsame : SameMarkup changed ⟨name, content⟩ (.ofString content) (.ofString content'))
    (world : World) (context : List Value) :
    Concur (Rendered.Alike changed) (s.renderIn world name context).1
        (s'.renderIn world name context).1 ∧
      (s'.renderIn world name context).2 = (s.renderIn world name context).2 := by
  have arrived : Progress.Mirror changed name (arrival world name content context)
      (arrival world name content' context) :=
    ⟨rfl, rfl, rfl, rfl, rfl, rfl, .nil⟩
  obtain ⟨concur, after⟩ := Expansion.mirrors_markupTop h hsame _ _ arrived
  rw [renderIn_markup hnode, renderIn_markup hnode']
  generalize (Expansion.markupTop (.ofString content)).runIn s.setting
    (arrival world name content context) = run at concur after ⊢
  generalize (Expansion.markupTop (.ofString content')).runIn s'.setting
    (arrival world name content' context) = run' at concur after ⊢
  obtain ⟨r, p⟩ := run
  obtain ⟨r', p'⟩ := run'
  dsimp only at concur after
  cases concur with
  | @ok text _ same =>
      cases same
      have shown : Rendered.Alike changed ⟨name, text, p.links⟩ ⟨name, text, p'.links⟩ :=
        ⟨rfl, rfl, after.links⟩
      refine ⟨.ok shown, ?_⟩
      dsimp only
      rw [after.world]
      exact shown.finish _
  | error cause => exact ⟨.error cause, after.world⟩

/-- Sessions on stories that differ in the commands of links expand in settings that mirror. -/
theorem mirror_withStory {story : Story} {node : String}
    (h : Story.SameButTraversals node s.story story) :
    Setting.Mirror (· = node) s.setting (s.withStory story).setting where
  library := rfl
  limit := rfl
  nodes name := by
    dsimp only [setting, withStory]
    by_cases hname : name = node
    · obtain ⟨content, content', hnode, hnode', same⟩ := h.changed
      rw [hname, hnode, hnode']
      exact .some (.markup (same.sameMarkup rfl))
    · rw [h.others name hname]
      exact .refl name _

/-- **Rendering ignores what links do when they are followed.** -/
theorem renderIn_withStory {story : Story} {node : String}
    (h : Story.SameButTraversals node s.story story) (world : World) (name : String)
    (context : List Value) :
    Concur (Rendered.Alike (· = node)) (s.renderIn world name context).1
        ((s.withStory story).renderIn world name context).1 ∧
      ((s.withStory story).renderIn world name context).2 = (s.renderIn world name context).2 := by
  have mirror := mirror_withStory h
  by_cases hname : name = node
  · subst hname
    obtain ⟨content, content', hnode, hnode', same⟩ := h.changed
    exact renderIn_mirror mirror hnode hnode' (same.sameMarkup rfl) world context
  · have same : (s.withStory story).story.node? name = s.story.node? name := h.others name hname
    cases hnode : s.story.node? name with
    | none =>
        rw [hnode] at same
        unfold renderIn
        rw [hnode, same]
        exact ⟨.error rfl, rfl⟩
    | some body =>
        rw [hnode] at same
        cases body with
        | markup content =>
            exact renderIn_mirror mirror hnode same (Fragment.SameChars.sameMarkup rfl) world context
        | fixed content links =>
            unfold renderIn
            rw [hnode, same]
            exact ⟨.ok ⟨rfl, rfl, List.forall₂_same.mpr fun l _ => .refl _ l⟩, rfl⟩

theorem transaction_concur {α : Type} {V : α → α → Prop} {work work' : World → Except Fault α × World}
    (hworld : s'.world = s.world)
    (h : Concur V (work s.world).1 (work' s.world).1 ∧ (work' s.world).2 = (work s.world).2) :
    Concur V (s.transaction work).1 (s'.transaction work').1 ∧
      (s'.transaction work').2.world = (s.transaction work).2.world := by
  obtain ⟨concur, same⟩ := h
  unfold transaction
  rw [hworld]
  generalize work s.world = out, work' s.world = out' at concur same ⊢
  obtain ⟨r, after⟩ := out
  obtain ⟨r', after'⟩ := out'
  cases concur with
  | ok value => exact ⟨.ok value, same⟩
  | error cause => exact ⟨.error cause, hworld⟩

/-- **Links do nothing until they are followed.** Let two stories have the same nodes, where the markup
of one node has the same segments in both but for the commands of links, and let these pass the check
in both stories. Then every node, with any context and in any state of the playthrough, is rendered in
both stories or in none. If it is, the node, the text and the playthrough that results are the same, and
so are the links but for the commands of those from the one node. If it is not, the cause is the same. -/
theorem rendering_ignores_link_commands {story : Story} {node : String}
    (h : Story.SameButTraversals node s.story story) :
    (∀ world name context,
      Concur (Rendered.Alike (· = node)) (s.renderIn world name context).1
          ((s.withStory story).renderIn world name context).1 ∧
        ((s.withStory story).renderIn world name context).2 = (s.renderIn world name context).2) ∧
    ∀ name,
      Concur (Rendered.Alike (· = node)) (s.render name).1 ((s.withStory story).render name).1 ∧
        ((s.withStory story).render name).2.world = (s.render name).2.world :=
  ⟨renderIn_withStory h, fun name => transaction_concur rfl (renderIn_withStory h s.world name [])⟩

/-- A story with a hall and a porch that includes it. -/
def hallwayStory (hall : String) : Story :=
  { Story.new "porch" with
    nodes := [("hall", .markup hall), ("porch", .markup "Inside: (hall~) [[enter|hall]]")] }

/-- A hall with two links, one of which lights the lamp. -/
def quietHall : String :=
  "A hall. [[climb|attic|(set~ lamp ~ 1)]] or [[wait|hall]] (if~ lamp ~ in the light)"

/-- The same hall with other commands, and with some behind the other link. -/
def busyHall : String :=
  "A hall. [[climb|attic|(add~ steps ~ 2 * lamp) (invert~ dark)]] or [[wait|hall|(set~ lamp ~ 1)]] " ++
    "(if~ lamp ~ in the light)"

/-- A playthrough in which the lamp is lit. -/
def hallwaySession : Session where
  story := hallwayStory quietHall
  library := .standard
  settings := default
  world := .start ⟨[("lamp", .int 1)]⟩ (some 7) default

/-- The segments of a text that can be scanned. -/
def hallParts (hall : String) : List Segment :=
  (Markup.scan (.ofString hall)).toOption.getD []

theorem hallway_ignores_link_commands :
    Story.SameButTraversals "hall" (hallwayStory quietHall) (hallwayStory busyHall) ∧
      (hallwaySession.render "hall").1.isOk ∧
      Concur (Rendered.Alike (· = "hall")) (hallwaySession.render "hall").1
        ((hallwaySession.withStory (hallwayStory busyHall)).render "hall").1 ∧
      Concur (Rendered.Alike (· = "hall")) (hallwaySession.render "porch").1
        ((hallwaySession.withStory (hallwayStory busyHall)).render "porch").1 := by
  have same : Story.SameButTraversals "hall" (hallwayStory quietHall) (hallwayStory busyHall) := by
    refine ⟨fun name hname => ?_, quietHall, busyHall, rfl, rfl, hallParts quietHall,
      hallParts busyHall, ?_⟩
    · -- all other names are looked for behind the hall
      have behind (hall : String) : (hallwayStory hall).node? name =
          Mapping.get? [("porch", .markup "Inside: (hall~) [[enter|hall]]")] name :=
        if_neg hname.symm
      rw [behind, behind]
    · decide +kernel
  obtain ⟨-, rendered⟩ := rendering_ignores_link_commands (s := hallwaySession) same
  exact ⟨same, by decide +kernel, (rendered "hall").1, (rendered "porch").1⟩

end Session

end Fiction
