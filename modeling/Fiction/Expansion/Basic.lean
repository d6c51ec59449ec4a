import Fiction.Library
import Fiction.Story.Traversal
import Fiction.World

/-!
# Fiction.Expansion.Basic

The setting in which markup is expanded, and what expansion works on.

* `Setting` is what stays the same: the story, the calls there are and the limit.
* `Progress` is what expansion works on. Some of it is only borrowed: a map pushes its bindings, a
  call goes a level deeper, and an inclusion takes over the text and the scope.
* `Expansion` is a computation that reads the one, changes the other and may fail. What it changed
  is kept when it fails.
* `Expansion.borrowing` makes a change for the time of a computation; what undoes it is run also
  when the computation fails.
-/

namespace Fiction

/-- What stays the same during expansion. -/
structure Setting where
  /-- The story, whose nodes can be included. -/
  story : Story
  /-- The calls there are. -/
  library : Library
  /-- How deep calls may be nested. -/
  limit : Nat
deriving Inhabited

/-- What expansion works on. -/
structure Progress where
  /-- What is being done. -/
  phase : Phase
  /-- The text that is being expanded. -/
  source : Source
  /-- Where names are looked up. -/
  scope : Scope
  /-- The links found so far, in the order of the text. -/
  links : List Link
  /-- The number of calls in progress. -/
  depth : Nat
  /-- The playthrough. -/
  world : World
deriving Inhabited

namespace Progress

/-- Other variables of the node and of the story. -/
def withStores (p : Progress) (locals store : Store) : Progress :=
  { p with scope := { p.scope with locals }, world := { p.world with store } }

/-- Another source of chance. -/
def withChance (p : Progress) (chance : Chance) : Progress :=
  { p with world := { p.world with chance } }

/-- Another link behind those found so far. -/
def addLink (p : Progress) (link : Link) : Progress :=
  { p with links := p.links ++ [link] }

/-- Binds names for an element of a map. -/
def push (p : Progress) (frame : Mapping Value) : Progress :=
  { p with scope := { p.scope with bindings := frame :: p.scope.bindings } }

/-- Drops the innermost bindings. -/
def pop (p : Progress) : Progress :=
  { p with scope := { p.scope with bindings := p.scope.bindings.tail } }

/-- Goes a call deeper. -/
def deeper (p : Progress) : Progress :=
  { p with depth := p.depth + 1 }

/-- Comes back from a call. -/
def shallower (p : Progress) : Progress :=
  { p with depth := p.depth - 1 }

/-- Turns to a command of a link, whose text is named after the text at hand. -/
def enterCommand (p : Progress) (command : String) : Progress :=
  { p with source := ⟨p.source.name ++ " (link)", command⟩ }

/-- Turns back to the text that there was before a command. -/
def leaveCommand (p before : Progress) : Progress :=
  { p with source := before.source }

/-- Turns to the text of a node that is included, with values as its context. -/
def enter (p : Progress) (source : Source) (context : List Value) : Progress :=
  { p with source, scope := p.scope.derive context }

/-- Turns back to the text that includes a node. The links of the node are dropped. -/
def leave (p before : Progress) : Progress :=
  { p with
    source := before.source
    scope := before.scope
    links := p.links.take before.links.length }

end Progress

/-- A computation in a setting. -/
abbrev Expansion := ReaderT Setting (ExceptT Fault (StateM Progress))

namespace Expansion

variable {α : Type}

/-- Runs a computation. -/
def runIn (x : Expansion α) (setting : Setting) (progress : Progress) :
    Except Fault α × Progress :=
  (x setting).run progress

/-- Fails at a place of the text at hand. -/
def fail (cause : Cause) (span : Span) : Expansion α := do
  let p ← get
  throw ⟨cause, p.source, span, p.phase, none, none⟩

/-- The result of a scanner or parser on the text at hand. -/
def ofFlaw (x : Except Flaw α) : Expansion α :=
  match x with
  | .ok a => pure a
  | .error flaw => do
      let p ← get
      throw (.ofFlaw p.source p.phase flaw)

/-- The result of an operation that failed, if it did, at a place. -/
def ofOutcome (span : Span) (x : Outcome α) : Expansion α :=
  match x with
  | .ok a => pure a
  | .error cause => fail cause span

/-- Changes the fault of a computation that fails. -/
def mapFault (f : Fault → Fault) (x : Expansion α) : Expansion α :=
  fun s => ExceptT.mk do
    match ← (x s).run with
    | .ok a => return .ok a
    | .error fault => return .error (f fault)

/-- Runs a computation after a change. Then `leave` is given what the computation left and what there
was before, also when it fails. -/
def borrowing (enter : Progress → Progress) (leave : Progress → Progress → Progress)
    (x : Expansion α) : Expansion α :=
  fun s => ExceptT.mk do
    let before ← get
    set (enter before)
    let result ← (x s).run
    modify fun p => leave p before
    return result

/-! ## Variables -/

/-- The value at a path. -/
def resolve (path : Path) : Expansion (Outcome Value) := do
  let p ← get
  return p.scope.resolve p.world.store path

/-- Changes the store that a path belongs to. -/
def change (path : Path) (f : Store → Outcome α × Store) : Expansion (Outcome α) := do
  let p ← get
  let (result, locals, store) := Scope.write p.scope.locals p.world.store path f
  set (p.withStores locals store)
  return result

/-- Writes a value. -/
def write (path : Path) (value : Value) : Expansion (Outcome Unit) :=
  change path fun s => s.set path value

/-- Adds to a value. -/
def add (path : Path) (delta : Value) : Expansion (Outcome Value) :=
  change path fun s => s.add path delta

/-- Turns a value into its opposite. -/
def invert (path : Path) : Expansion (Outcome Value) :=
  change path fun s => s.invert path

/-- Removes a value. -/
def remove (path : Path) : Expansion (Outcome (Option Value)) :=
  change path fun s => s.remove path

/-! ## Links and chance -/

/-- Adds a link behind those found so far. -/
def addLink (link : Link) : Expansion Unit :=
  modify fun p => p.addLink link

/-- Draws from chance. -/
def draw (f : Chance → α × Chance) : Expansion α := do
  let p ← get
  let (a, chance) := f p.world.chance
  set (p.withChance chance)
  return a

end Expansion

end Fiction
