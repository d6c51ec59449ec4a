import Fiction.Markup.Scan
import Fiction.Story.Basic

/-!
# Fiction.Story.Traversal

Commands in the markup of links.

* `Traversal.commands` reads the part of a link that holds commands: calls of `set`, `add` and
  `invert` with blanks between them.
* `Story.problems` checks all links and calls of a story without expanding anything.
-/

namespace Fiction

namespace Traversal

/-- Checks the number of arguments of a call. -/
def checkCount (call : Call) (expected : Nat) : Except Flaw Unit :=
  if call.args.length = expected then .ok ()
  else
    .error (.of (.malformedCall call.name (.argumentCount expected call.args.length)) call.span)

/-- Checks that a call has something at an argument. -/
def checkPresent (call : Call) (index : Nat) (flaw : CallFlaw) : Except Flaw Unit :=
  match call.args[index]? with
  | some arg =>
      if arg.isBlank then .error (.of (.malformedCall call.name flaw) call.span) else .ok ()
  | none => .error (.of (.malformedCall call.name flaw) call.span)

/-- Checks the arguments of a call that changes state: a path and, unless it inverts, a value. -/
def checkArguments (verb : Verb) (call : Call) : Except Flaw Unit := do
  match verb with
  | .invert => checkCount call 1
  | .set | .add =>
      checkCount call 2
      checkPresent call 1 .missingValue
  checkPresent call 0 .missingPath

/-- Something else than commands. -/
def notAllowed {α : Type} (span : Span) : Except Flaw α :=
  .error (.of (.malformedLink .notCommand) span)

/-- The commands among segments. -/
def ofSegments : List Segment → Except Flaw (List Command)
  | [] => .ok []
  | .text f :: rest => if f.isBlank then ofSegments rest else notAllowed f.trim.span
  | .link l :: _ => notAllowed l.span
  | .call c :: rest =>
      match Verb.ofName? c.name with
      | none => notAllowed c.span
      | some verb => do
          checkArguments verb c
          let commands ← ofSegments rest
          return .call verb c.source.text :: commands

/-- The commands that the last part of a link holds. -/
def commands (f : Fragment) : Except Flaw (List Command) := do
  ofSegments (← Markup.scan f)

end Traversal

namespace Story

/-- The flaws of a text's links and calls. A text that cannot be scanned has one. -/
def flaws (content : String) : List Flaw :=
  match Markup.scan (.ofString content) with
  | .error flaw => [flaw]
  | .ok segments => segments.filterMap fun segment =>
      match segment with
      | .link ⟨_, _, some traversal, _⟩ =>
          match Traversal.commands traversal with
          | .error flaw => some flaw
          | .ok _ => none
      | _ => none

/-- The problems with the markup of a story, in the order of its nodes. -/
def problems (s : Story) : List Fault :=
  s.nodes.flatMap fun (name, body) =>
    match body with
    | .markup content =>
        (flaws content).map fun flaw => (Fault.ofFlaw ⟨name, content⟩ .parse flaw).inNode name
    | .fixed _ _ => []

end Story

end Fiction
