import Fiction.Fault.Cause
import Fiction.Text.Blank
import Fiction.Text.Search

/-!
# Fiction.Path

Dotted paths into the state of a story, such as `properties.turkey-tail`.

A path has at least one segment, so its first segment is a field of its own. `Path.parse` reads a
path and `Path.text` writes it.
-/

namespace Fiction

/-- A path of one or more segments. -/
structure Path where
  /-- The first segment: the name of a variable. -/
  head : String
  /-- The segments below it. -/
  tail : List String
deriving Repr, DecidableEq, Inhabited

namespace Path

/-- All segments. -/
def segments (p : Path) : List String :=
  p.head :: p.tail

/-- The path of one segment. -/
def single (name : String) : Path :=
  ⟨name, []⟩

/-- The first segments with dots between them. -/
def upTo (p : Path) (n : Nat) : String :=
  String.intercalate "." (p.segments.take n)

/-- The path as it is written. -/
def text (p : Path) : String :=
  String.intercalate "." p.segments

/-- A segment is not empty and has no blanks inside. -/
def isSegment (cs : List Char) : Bool :=
  !cs.isEmpty && !cs.any Text.isBlank

/-- Reads a path. Blanks around segments do not count. -/
def parse (s : String) : Except Cause Path :=
  let trimmed := Text.trim s.toList
  let segments := (Text.split ['.'] trimmed).map Text.trim
  match segments with
  | first :: rest =>
      if !trimmed.isEmpty && segments.all isSegment then
        .ok ⟨String.ofList first, rest.map String.ofList⟩
      else .error (.invalidPath (String.ofList trimmed))
  | [] => .error (.invalidPath (String.ofList trimmed))

/-- A name of more than one byte that starts with an underscore belongs to a node, unless it ends
with an underscore too. -/
def isLocal (p : Path) : Bool :=
  decide (1 < p.head.utf8ByteSize) && p.head.toList.head? == some '_' &&
    p.head.toList.getLast? != some '_'

end Path

end Fiction
