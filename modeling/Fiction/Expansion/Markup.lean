import Fiction.Expansion.Evaluate
import Fiction.Markup.Escape

/-!
# Fiction.Expansion.Markup

Expanding markup to text.

* `Expansion.markup` expands a fragment: escapes are removed, calls are replaced by what their values
  render as, and links are recorded and replaced by their labels.
* `Expansion.body` expands an argument that holds markup, and `Expansion.pathArgument` one that
  holds a path.

Labels and targets of links are markup too. They are shorter than the text they stand in, so the
length of the text bounds how deep links are nested.
-/

namespace Fiction.Expansion

/-- Records a link and returns its label. Target and context are found out now; the commands are
only checked. -/
def recordLink (call : Caller) (expand : Fragment → Expansion String) (l : LinkText) :
    Expansion String := do
  let label ← expand l.label.trim
  match l.target.splitTop .argument '&' with
  | [] => fail (.malformedLink .noTarget) l.span
  | targetPart :: contextParts =>
      let target := Text.trimString (← expand targetPart.trim)
      if target.isEmpty then fail (.malformedLink .emptyTarget) targetPart.span
      else
        let context ← contextParts.mapM (evaluate call)
        let commands ←
          match l.traversal with
          | some traversal => ofFlaw (Traversal.commands traversal)
          | none => pure []
        addLink ⟨label, target, context, commands, (← get).source.name⟩
        return label

/-- Expands segments one after the other. -/
def segments (call : Caller) (expand : Fragment → Expansion String) :
    List Segment → Expansion String
  | [] => pure ""
  | segment :: rest => do
      let text ←
        match segment with
        | .text f => pure (String.ofList (Markup.unescape f.chars))
        | .call c => do pure (← call c).display
        | .link l => recordLink call expand l
      let rest ← segments call expand rest
      return text ++ rest

/-- Expands markup with links nested no deeper than a bound. -/
def nestedMarkup (call : Caller) : Nat → Fragment → Expansion String
  | 0, _ => pure ""
  | n + 1, f => do segments call (nestedMarkup call n) (← ofFlaw (Markup.scan f))

/-- Expands a fragment of markup to text. -/
def markup (call : Caller) (f : Fragment) : Expansion String :=
  nestedMarkup call (f.chars.length + 1) f

/-- Expands an argument that holds markup. Blanks around it do not count, and if it is one quoted
text, its inside is expanded. -/
def body (call : Caller) (f : Fragment) : Expansion Value := do
  return .text (← markup call (f.quotedBody?.getD f.trim))

/-- Expands an argument that holds a path. -/
def pathArgument (call : Caller) (f : Fragment) : Expansion Path := do
  ofOutcome f.span (Path.parse (← markup call f.trim))

end Fiction.Expansion
