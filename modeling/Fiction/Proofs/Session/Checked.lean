import Fiction.Proofs.Expansion.Discipline
import Fiction.Proofs.Session.Run

/-!
# Fiction.Proofs.Session.Checked

**What checking a story promises.** Checking reads each text once and expands nothing, so it sees the
calls and links of a text and the commands of these links, and nothing that stands inside of them.

* `renderIn_explained`: a node that breaks on markup does so at a flaw of a part that is read when some
  node is expanded.
* `broken_markup_is_nested`: in a story without problems this part stands inside a call or a link.
* `checked_halls_break`: such flaws are there in stories without problems.
-/

namespace Fiction.Session

open Expansion

variable {s : Session}

/-- The expansion of nodes, whatever the values are. -/
def nodeTexts (s : Session) : Discipline where
  setting := s.setting
  good _ := True
  closed := Value.closed_true
  known source := s.story.node? source.name = some (.markup source.text)
  nodes h := h

/-- Rendering breaks on markup only where a part of a node has the flaw that shows. -/
theorem renderIn_explained {world : World} {name : String} {context : List Value} {fault : Fault}
    (h : (s.renderIn world name context).1 = .error fault) : s.nodeTexts.Explains fault := by
  unfold renderIn at h
  split at h
  · cases h
    exact Discipline.explains_of_quiet rfl
  · next node hnode =>
      cases node with
      | fixed content successors => cases h
      | markup content =>
          dsimp only at h
          split at h
          · cases h
          · next inner p run =>
              cases h
              have whole : s.nodeTexts.Reads ⟨name, content⟩ (.markup (.ofString content)) :=
                ⟨hnode, .refl⟩
              exact (expand_yields rfl (markupTop_yields whole) run trivial (fun _ _ => trivial)
                trivial).2

theorem renderIn_of_render {name : String} {fault : Fault} (h : (s.render name).1 = .error fault) :
    (s.renderIn s.world name []).1 = .error fault := by
  unfold render transaction at h
  dsimp only at h
  split at h
  · cases h
  · next run =>
      cases h
      rw [run]

/-- **A checked story breaks only on markup inside calls and links.** Where a story has no problems and
a node is rendered in any state, an unbalanced call, an open link or wrong text in the place of
commands is a flaw of a part that stands inside a call or a link of a node, at the place that the
fault names. Read by itself, this part shows the flaw. -/
theorem broken_markup_is_nested {name : String} {fault : Fault} (hchecked : s.story.problems = [])
    (hfails : (s.render name).1 = .error fault) (hbroken : fault.cause.isBrokenMarkup = true) :
    s.story.node? fault.source.name = some (.markup fault.source.text) ∧
      ∃ part flaw,
        Relation.TransGen (Nested s.library) (.markup (.ofString fault.source.text)) part ∧
        flaw ∈ part.flaws ∧ flaw.cause = fault.cause ∧ flaw.span = fault.span := by
  obtain ⟨part, flaw, reads, shows, cause, span⟩ :=
    renderIn_explained (renderIn_of_render hfails) hbroken
  refine ⟨reads.known, part, flaw, ?_, shows, cause, span⟩
  rcases Relation.reflTransGen_iff_eq_or_transGen.mp reads.nested with rfl | inside
  · -- the check reads whole texts as they are read here
    rw [← Story.flaws_whole, Story.flaws_eq_nil hchecked reads.known] at shows
    cases shows
  · exact inside

/-- A playthrough of a story with one node. -/
def hallSession (content : String) : Session where
  story := { Story.new "hall" with nodes := [("hall", .markup content)] }
  library := .standard
  settings := {}
  world := .start .empty (some 7) default

/-- A story whose only node has a text is checked without a problem, and the node breaks on markup at a
place inside a call. -/
structure BreaksUnnoticed (content : String) (cause : Cause) (span : Span) (call : String) : Prop where
  checked : (hallSession content).story.problems = []
  broken : cause.isBrokenMarkup = true
  fails : ((hallSession content).render "hall").1 =
    .error ⟨cause, ⟨"hall", content⟩, span, .render, some "hall", some call⟩

/-- The wrong commands of a link stand inside a branch. -/
theorem hall_breaks_inside_branch :
    BreaksUnnoticed "(if~ true ~ [[up|hall|oops]])" (.malformedLink .notCommand) ⟨22, 26⟩ "if" ∧
      ∃ part flaw,
        Relation.TransGen (Nested .standard)
          (.markup (.ofString "(if~ true ~ [[up|hall|oops]])")) part ∧
        flaw ∈ part.flaws ∧ flaw.cause = .malformedLink .notCommand ∧ flaw.span = ⟨22, 26⟩ := by
  have breaks : BreaksUnnoticed "(if~ true ~ [[up|hall|oops]])" (.malformedLink .notCommand)
      ⟨22, 26⟩ "if" :=
    ⟨by decide +kernel, rfl, Outcome.eq_error_of_map (f := fun _ => ()) (by decide +kernel)⟩
  exact ⟨breaks, (broken_markup_is_nested breaks.checked breaks.fails breaks.broken).2⟩

/-- **Checking does not keep a story from breaking**: a branch with wrong commands, a quoted text with
an open call and one with an open link have no problems, and each of them fails when the node is
rendered. -/
theorem checked_halls_break :
    BreaksUnnoticed "(if~ true ~ [[up|hall|oops]])" (.malformedLink .notCommand) ⟨22, 26⟩ "if" ∧
      BreaksUnnoticed "(once~ \"(eval~ 1\")" (.unterminatedCall "eval") ⟨8, 16⟩ "once" ∧
      BreaksUnnoticed "(once~ \"[[up|hall\")" .unterminatedLink ⟨8, 17⟩ "once" := by
  refine ⟨⟨by decide +kernel, rfl, ?_⟩, ⟨by decide +kernel, rfl, ?_⟩, by decide +kernel, rfl, ?_⟩
  · exact Outcome.eq_error_of_map (f := fun _ => ()) (by decide +kernel)
  · exact Outcome.eq_error_of_map (f := fun _ => ()) (by decide +kernel)
  · exact Outcome.eq_error_of_map (f := fun _ => ()) (by decide +kernel)

end Fiction.Session
