import Fiction.Expansion.Calls
import Fiction.Library
import Fiction.Proofs.Mapping
import Mathlib.Logic.Relation

/-!
# Fiction.Proofs.Markup.Nested

**Texts inside texts.** The arguments of a call and the parts of a link are read again when the text
they stand in is expanded, each in its own way.

* `Part` is a piece of text with the way it is read, and `Part.flaws` is what shows when it is read
  and nothing in it is expanded. For the whole text of a node this is what checking a story reports
  (`flaws_whole`).
* `Nested` relates a part to those that expanding it reads next. Which way an argument is read depends
  on what the name of the call stands for (`reading`).
-/

namespace Fiction

/-- A piece of text and the way it is read. -/
inductive Part where
  | markup (f : Fragment)
  | expression (f : Fragment)

/-- The flaw of the commands that a segment holds. -/
def Segment.flaw? : Segment → Option Flaw
  | .link ⟨_, _, some traversal, _⟩ =>
      match Traversal.commands traversal with
      | .error flaw => some flaw
      | .ok _ => none
  | _ => none

namespace Part

/-- The flaws that show when a part is read and nothing in it is expanded. -/
def flaws : Part → List Flaw
  | markup f =>
      match Markup.scan f with
      | .error flaw => [flaw]
      | .ok segments => segments.filterMap Segment.flaw?
  | expression f =>
      match Lexer.tokens f with
      | .error flaw => [flaw]
      | .ok _ => []

variable {f : Fragment} {flaw : Flaw}

theorem mem_flaws_of_scan (h : Markup.scan f = .error flaw) : flaw ∈ (markup f).flaws := by
  simp [flaws, h]

theorem mem_flaws_of_tokens (h : Lexer.tokens f = .error flaw) : flaw ∈ (expression f).flaws := by
  simp [flaws, h]

theorem mem_flaws_of_commands {segments : List Segment} {l : LinkText} {traversal : Fragment}
    (h : Markup.scan f = .ok segments) (hl : .link l ∈ segments)
    (htraversal : l.traversal = some traversal)
    (hflaw : Traversal.commands traversal = .error flaw) : flaw ∈ (markup f).flaws := by
  have found : Segment.flaw? (.link l) = some flaw := by
    obtain ⟨label, target, _, span⟩ := l
    cases htraversal
    simp [Segment.flaw?, hflaw]
  simp only [flaws, h]
  exact List.mem_filterMap.mpr ⟨_, hl, found⟩

/-- The calls in a part. -/
inductive Holds : Part → Call → Prop
  | markup {f segments c} : Markup.scan f = .ok segments → .call c ∈ segments →
      Holds (.markup f) c
  | expression {f tokens lexeme c} : Lexer.tokens f = .ok tokens → lexeme ∈ tokens →
      lexeme.token = .call c → Holds (.expression f) c

end Part

/-! ## Arguments -/

/-- How the argument of a call is read. -/
inductive Reading where
  | expression
  /-- Markup that gives a path or a name. -/
  | name
  /-- Markup that may stand in quotes. -/
  | body
deriving DecidableEq

/-- How what a name stands for reads its argument at an index. Nodes of the story take expressions. -/
def reading : Option Builtin → Nat → Reading
  | some .set, 0 | some .add, 0 | some .plus, 0 | some .minus, 0 => .name
  | some .invert, _ | some .lookup, _ | some .count, _ | some .list, _ => .name
  | some .text, _ | some .once, _ | some .again, _ => .body
  -- conditions and results take turns
  | some .branch, index => if index % 2 = 0 then .expression else .body
  | _, _ => .expression

/-- An argument as it is read. -/
def Reading.part : Reading → Fragment → Part
  | expression, f => .expression f
  | name, f => .markup f.trim
  | body, f => .markup (f.quotedBody?.getD f.trim)

/-! ## Nesting -/

/-- The parts that expanding a part reads next. -/
inductive Nested (library : Library) : Part → Part → Prop
  | argument {part c index arg} : part.Holds c → c.args[index]? = some arg →
      Nested library part ((reading (library.find? c.name) index).part arg)
  | label {f segments l} : Markup.scan f = .ok segments → .link l ∈ segments →
      Nested library (.markup f) (.markup l.label.trim)
  | target {f segments l first rest} : Markup.scan f = .ok segments → .link l ∈ segments →
      l.target.splitTop .argument '&' = first :: rest →
      Nested library (.markup f) (.markup first.trim)
  | context {f segments l first rest arg} : Markup.scan f = .ok segments → .link l ∈ segments →
      l.target.splitTop .argument '&' = first :: rest → arg ∈ rest →
      Nested library (.markup f) (.expression arg)

/-! ## Whole texts -/

namespace Story

/-- Checking a text reads it as markup and expands nothing. -/
theorem flaws_whole (content : String) : flaws content = (Part.markup (.ofString content)).flaws := by
  unfold flaws Part.flaws
  dsimp only
  cases Markup.scan (.ofString content) with
  | error flaw => rfl
  | ok segments => rfl

/-- In a story without problems no text shows a flaw. -/
theorem flaws_eq_nil {s : Story} {name content : String} (h : s.problems = [])
    (hnode : s.node? name = some (.markup content)) : flaws content = [] := by
  have reported := List.flatMap_eq_nil_iff.mp h (name, .markup content) (Mapping.mem_of_get? hnode)
  exact List.map_eq_nil_iff.mp reported

end Story

end Fiction
