import Fiction.Fault.Cause
import Fiction.Text.Fragment

/-!
# Fiction.Fault.Basic

Failures and where they happened.

* `Flaw` is a cause at a place of a text that is still anonymous; scanners and parsers report
  these.
* `Fault` adds the text it is about, the phase of the work, and the node and call in which it
  happened. The innermost node and call are kept while a fault travels outward.
-/

namespace Fiction

/-- A text with a name, which faults point into. -/
structure Source where
  /-- The name: that of a node, a file or a kind of input. -/
  name : String
  /-- The text itself. -/
  text : String
deriving Repr, DecidableEq, Inhabited

/-- The source of faults that are about no text. -/
def Source.none : Source :=
  ⟨"fallback", ""⟩

/-- What was being done. -/
inductive Phase where
  | render
  | traverse
  | evaluate
  | parse
  | load
  | configure
deriving Repr, DecidableEq, Inhabited

/-- The name of a phase. -/
def Phase.name : Phase → String
  | render => "render"
  | traverse => "traverse"
  | evaluate => "evaluate"
  | parse => "parse"
  | load => "load"
  | configure => "config"

/-- A cause at a place. -/
structure Flaw where
  /-- What is wrong. -/
  cause : Cause
  /-- Where. -/
  span : Span
  /-- The call whose text it is in, where the finder of the flaw knows it. -/
  call : Option String
deriving Repr, DecidableEq

/-- A flaw outside any call. -/
def Flaw.of (cause : Cause) (span : Span) : Flaw :=
  ⟨cause, span, none⟩

/-- A failure with all there is to say about it. -/
structure Fault where
  /-- What is wrong. -/
  cause : Cause
  /-- The text it is about. -/
  source : Source
  /-- Where in that text. -/
  span : Span
  /-- What was being done. -/
  phase : Phase
  /-- The innermost node. -/
  node : Option String
  /-- The innermost call. -/
  call : Option String
deriving Repr, DecidableEq

namespace Fault

/-- A flaw in a named text. -/
def ofFlaw (source : Source) (phase : Phase) (flaw : Flaw) : Fault :=
  ⟨flaw.cause, source, flaw.span, phase, none, flaw.call⟩

/-- A failure that is about no text. -/
def unsourced (cause : Cause) (phase : Phase) : Fault :=
  ⟨cause, .none, ⟨0, 0⟩, phase, none, none⟩

/-- Notes the node, unless an inner one is noted. -/
def inNode (f : Fault) (node : String) : Fault :=
  { f with node := f.node.or (some node) }

/-- Notes the call, unless an inner one is noted. -/
def inCall (f : Fault) (call : String) : Fault :=
  { f with call := f.call.or (some call) }

/-- The whole message. -/
def message (f : Fault) : String :=
  let place :=
    match f.node, f.call with
    | some node, some call => s!" (in '{call}' on node '{node}')"
    | some node, none => s!" (on node '{node}')"
    | none, some call => s!" (in '{call}')"
    | none, none => ""
  f.cause.category.heading ++ ": " ++ f.cause.text ++ place

/-- The code of a fault, category first. -/
def code (f : Fault) : String :=
  s!"firelight::{f.cause.category.name}::{f.cause.code}"

end Fault

end Fiction
