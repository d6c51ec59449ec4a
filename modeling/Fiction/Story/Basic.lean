import Fiction.Story.Command
import Fiction.Store

/-!
# Fiction.Story.Basic

Stories: named nodes and what it takes to start a playthrough.
-/

namespace Fiction

/-- A link of a fixed node. -/
structure Successor where
  /-- What the reader sees. -/
  anchor : String
  /-- The node it leads to. -/
  target : String
  /-- What happens on the way. -/
  commands : List Command
deriving Repr, Inhabited

/-- The text of a node. -/
inductive NodeBody where
  /-- Markup, expanded whenever the node is rendered. -/
  | markup (content : String)
  /-- Text that is shown as it stands, with its links. -/
  | fixed (content : String) (successors : List Successor)
deriving Repr, Inhabited

/-- The text of a node as it is written. -/
def NodeBody.content : NodeBody → String
  | markup content => content
  | fixed content _ => content

/-- A story. -/
structure Story where
  title : String
  author : String
  /-- The node to start in. -/
  start : String
  /-- The modules of the library that the story needs. -/
  modules : List String
  /-- The variables at the start. -/
  state : Store
  /-- Fields of the header without a meaning to the player. -/
  metadata : Mapping String
  /-- The nodes by their names, in the order of the text. -/
  nodes : Mapping NodeBody
deriving Repr, Inhabited

namespace Story

/-- A story without nodes. -/
def new (start : String) : Story :=
  ⟨"Untitled", "Unknown", start, [], .empty, [], []⟩

/-- The node with a name. -/
def node? (s : Story) (name : String) : Option NodeBody :=
  Mapping.get? s.nodes name

/-- Whether there is a node with a name. -/
def hasNode (s : Story) (name : String) : Bool :=
  Mapping.contains s.nodes name

/-- Adds a node with a new name. -/
def addNode (s : Story) (name : String) (body : NodeBody) : Except Cause Story :=
  if s.hasNode name then .error (.invalidStory (.twice name))
  else .ok { s with nodes := Mapping.insert s.nodes name body }

/-- Adds a node with markup, in place of one with the same name. -/
def withNode (s : Story) (name content : String) : Story :=
  { s with nodes := Mapping.insert s.nodes name (.markup content) }

/-- The target of a node's fixed links that does not exist. -/
def danglingTarget? (s : Story) : NodeBody → Option String
  | .markup _ => none
  | .fixed _ successors => (successors.find? fun l => !s.hasNode l.target).map Successor.target

/-- What every story that is played has to satisfy: the start node and the targets of fixed links
exist. -/
def validate (s : Story) : Except Cause Unit :=
  if !s.hasNode s.start then .error (.invalidStory (.missingStart s.start))
  else
    match s.nodes.findSome? fun (name, body) => (s.danglingTarget? body).map (name, ·) with
    | some (name, target) => .error (.invalidStory (.dangling name target))
    | none => .ok ()

/-! ## Equality -/

/-- Equality of fixed links. -/
def sameSuccessor (a b : Successor) : Bool :=
  a.anchor == b.anchor && a.target == b.target && a.commands == b.commands

/-- Two lists of the same length with equal elements at each place. -/
def sameList {α : Type} (same : α → α → Bool) (xs ys : List α) : Bool :=
  xs.length == ys.length && (xs.zip ys).all fun (x, y) => same x y

/-- Two mappings of the same size with equal values at each key. -/
def sameMapping {α : Type} (same : α → α → Bool) (m m' : Mapping α) : Bool :=
  m.length == m'.length && m.all fun (k, v) =>
    match Mapping.get? m' k with
    | some v' => same v v'
    | none => false

/-- Equality of nodes. -/
def sameBody : NodeBody → NodeBody → Bool
  | .markup c, .markup c' => c == c'
  | .fixed c ls, .fixed c' ls' => c == c' && sameList sameSuccessor ls ls'
  | _, _ => false

/-- Whether two stories are the same, up to the order of their nodes and variables. -/
def same (a b : Story) : Bool :=
  a.title == b.title && a.author == b.author && a.start == b.start && a.modules == b.modules &&
    a.state.toValue == b.state.toValue && sameMapping (· == ·) a.metadata b.metadata &&
    sameMapping sameBody a.nodes b.nodes

end Story

end Fiction
