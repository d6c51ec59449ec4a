import Fiction.Store

/-!
# Fiction.Scope

Where names are looked up while a node is expanded.

* `Surroundings` are the automatic variables: facts about the node that nothing can write.
* `Scope` adds the node's own variables and the bindings of the maps in progress.
* `Scope.resolve` reads a path; `Scope.write` changes the store that a path belongs to.
-/

namespace Fiction

/-- Whether the story is still going on. -/
inductive Status where
  | unfolding
  | finished
deriving Repr, DecidableEq, Inhabited

/-- The name of a status. -/
def Status.name : Status → String
  | unfolding => "unfolding"
  | finished => "finished"

/-- The facts about a node that are visible while it is expanded. -/
structure Surroundings where
  /-- The node's name. -/
  node : String
  /-- The node before it. -/
  prev : Option String
  /-- What the link that was followed or the inclusion hands over. -/
  context : List Value
  /-- Whether this is the first visit. -/
  once : Bool
  /-- How often each node was visited. -/
  visited : Mapping Value
  /-- Whether the story is still going on. -/
  status : Status
deriving Repr, Inhabited

namespace Surroundings

/-- The value of an automatic variable. -/
def automatic? (s : Surroundings) : String → Option Value
  | "_context" => some (.list s.context)
  | "_prev" => some (match s.prev with
      | some node => .text node
      | none => .null)
  | "_node" => some (.text s.node)
  | "_once" => some (.bool s.once)
  | "_visited_" => some (.mapping s.visited)
  | "_status_" => some (.text s.status.name)
  | _ => none

end Surroundings

/-- The names of automatic variables. -/
def automaticNames : List String :=
  ["_context", "_prev", "_node", "_once", "_visited_", "_status_"]

/-- Whether a name is that of an automatic variable. -/
def isAutomatic (name : String) : Bool :=
  automaticNames.contains name

/-- The names that a map binds for each element. -/
def bindingNames : List String := ["?", "@", "#"]

/-- Where names are looked up. -/
structure Scope where
  /-- The automatic variables. -/
  surroundings : Surroundings
  /-- The bindings of the maps in progress, the innermost first. -/
  bindings : List (Mapping Value)
  /-- The node's own variables. -/
  locals : Store
deriving Repr, Inhabited

namespace Scope

/-- The innermost binding of a name. -/
def binding? (s : Scope) (name : String) : Option Value :=
  s.bindings.findSome? fun frame => Mapping.get? frame name

/-- The value at a path: bindings come first, then automatic variables, then the node's own ones
and then those of the story. -/
def resolve (s : Scope) (globals : Store) (path : Path) : Outcome Value :=
  if bindingNames.contains path.head then
    match s.binding? path.head with
    | some v => v.descend path 1 path.tail
    | none => .error (.undefined path.text)
  else
    match s.surroundings.automatic? path.head with
    | some v => v.descend path 1 path.tail
    | none => if path.isLocal then s.locals.get path else globals.get path

/-- Whether a path belongs to something that cannot be written. -/
def isReadOnly (path : Path) : Bool :=
  isAutomatic path.head || bindingNames.contains path.head

/-- Changes the store that a path belongs to. -/
def write {α : Type} (locals globals : Store) (path : Path)
    (f : Store → Outcome α × Store) : Outcome α × Store × Store :=
  if isReadOnly path then (.error (.readOnly path.head), locals, globals)
  else if path.isLocal then
    let (result, locals) := f locals
    (result, locals, globals)
  else
    let (result, globals) := f globals
    (result, locals, globals)

/-- The scope of a node that is included: the same facts but for the context, a copy of the locals
and no bindings. -/
def derive (s : Scope) (context : List Value) : Scope :=
  ⟨{ s.surroundings with context }, [], s.locals⟩

end Scope

end Fiction
