import Fiction.Expansion.Dispatch
import Fiction.Settings
import Fiction.Snapshot

/-!
# Fiction.Session

Playing a story.

* `Session.ofStory` prepares a playthrough.
* `Session.render` shows a node, `Session.traverse` follows a link and `Session.reset` starts over.
* `Session.preview` and `Session.evaluate` look at things without changing the playthrough.
* `Session.snapshot` saves a playthrough and `Session.restore` takes it up again.

Rendering and following a link change a world step by step, and what they changed is there also when
they fail. `Session.transaction` runs them and goes back to the world before if they fail.
-/

namespace Fiction

/-- What rendering a node gives. -/
structure Rendered where
  /-- The node. -/
  node : String
  /-- Its text. -/
  text : String
  /-- The links it offers. -/
  links : List Link
deriving Repr, Inhabited

/-- A node without links ends the story. -/
def Rendered.isEnding (r : Rendered) : Bool :=
  r.links.isEmpty

/-- A playthrough of a story. -/
structure Session where
  /-- The story. -/
  story : Story
  /-- The calls that the story can make. -/
  library : Library
  /-- The settings. -/
  settings : Settings
  /-- The state of the playthrough. -/
  world : World
deriving Inhabited

namespace Session

/-- Prepares a playthrough. `drawn` is the state of chance if the settings have no seed. -/
def ofStory (story : Story) (settings : Settings) (drawn : Chance) : Except Fault Session :=
  match Library.standard.enableAll (story.modules ++ settings.modules) with
  | .ok library => .ok ⟨story, library, settings, .start story.state settings.seed drawn⟩
  | .error cause => .error (.unsourced cause .load)

/-! ## Working on a world -/

/-- Runs a computation about a node on a world. -/
def expand {α : Type} (s : Session) (world : World) (phase : Phase) (source : Source)
    (surroundings : Surroundings) (x : Expansion α) : Except Fault α × Progress :=
  x.runIn ⟨s.story, s.library, s.settings.maxDepth⟩
    ⟨phase, source, ⟨surroundings, [], .empty⟩, [], 0, world⟩

/-- The facts about a node that was visited before. -/
def surroundingsOf (world : World) (node : String) (prev : Option String) : Surroundings :=
  ⟨node, prev, [], decide (world.visitCount node ≤ 1), world.visited, world.status⟩

/-- Ends the story if a rendered node has no links. -/
def finish (world : World) (r : Rendered) : World :=
  if r.isEnding then { world with status := .finished } else world

/-- Renders a node as the next stop: counts the visit, moves there and expands the text. -/
def renderIn (s : Session) (world : World) (name : String) (context : List Value) :
    Except Fault Rendered × World :=
  match s.story.node? name with
  | none =>
      (.error ⟨.unknownNode name, ⟨name, name⟩, ⟨0, name.utf8ByteSize⟩, .render, none, none⟩, world)
  | some body =>
      let prev := world.current
      let world := { world.recordVisit name with current := some name }
      match body with
      | .fixed content successors =>
          let links := successors.map fun l => ⟨l.anchor, l.target, [], l.commands, name⟩
          let r : Rendered := ⟨name, content, links⟩
          (.ok r, finish world r)
      | .markup content =>
          let surroundings : Surroundings :=
            ⟨name, prev, context, decide (world.visitCount name = 1), world.visited, world.status⟩
          match s.expand world .render ⟨name, content⟩ surroundings
              (Expansion.markupTop (.ofString content)) with
          | (.ok text, p) =>
              let r : Rendered := ⟨name, text, p.links⟩
              (.ok r, finish p.world r)
          | (.error fault, p) => (.error (fault.inNode name), p.world)

/-- Makes the changes of a link. -/
def runCommands (s : Session) (world : World) (link : Link) : Except Fault Unit × World :=
  let commands : Expansion Unit :=
    link.commands.forM fun c => Expansion.mapFault (·.inNode link.origin) (Expansion.runCommand c)
  let (result, p) := s.expand world .traverse ⟨link.origin, ""⟩
    (surroundingsOf world link.origin world.current) commands
  (result, p.world)

/-- Follows a link: makes its changes and renders its target. -/
def traverseIn (s : Session) (world : World) (link : Link) : Except Fault Rendered × World :=
  if !s.story.hasNode link.target then
    (.error ((Fault.unsourced (.unknownNode link.target) .traverse).inNode link.origin), world)
  else
    match s.runCommands world link with
    | (.ok (), world) => s.renderIn world link.target link.context
    | (.error fault, world) => (.error fault, world)

/-! ## Calls on a session -/

/-- Works on the world of a session and goes back to the world before if that fails. -/
def transaction {α : Type} (s : Session) (work : World → Except Fault α × World) :
    Except Fault α × Session :=
  match work s.world with
  | (.ok a, world) => (.ok a, { s with world })
  | (.error fault, _) => (.error fault, s)

/-- Renders a node. -/
def render (s : Session) (node : String) : Except Fault Rendered × Session :=
  s.transaction fun world => s.renderIn world node []

/-- Renders the start node. -/
def start (s : Session) : Except Fault Rendered × Session :=
  s.render s.story.start

/-- Follows a link, unless the story has ended. -/
def traverse (s : Session) (link : Link) : Except Fault Rendered × Session :=
  if s.world.status = .finished then (.error (.unsourced .storyFinished .traverse), s)
  else s.transaction fun world => s.traverseIn world link

/-- Starts over. Without a seed chance starts in a state that was drawn anew. -/
def reset (s : Session) (drawn : Chance) : Session :=
  { s with world := .start s.story.state s.settings.seed drawn }

/-- Renders a node without changing the playthrough. -/
def preview (s : Session) (node : String) : Except Fault Rendered :=
  (s.renderIn s.world node []).1

/-- The value of an expression as if it stood in the current node, without changing the
playthrough. -/
def evaluate (s : Session) (expression : String) : Except Fault Value :=
  let node := s.world.current.getD s.story.start
  (s.expand s.world .evaluate ⟨"expression", expression⟩ (surroundingsOf s.world node none)
    (Expansion.evaluateTop (.ofString expression))).1

/-- Saves the playthrough. -/
def snapshot (s : Session) : Snapshot :=
  s.world.snapshot

/-- Takes up a saved playthrough. -/
def restore (s : Session) (snapshot : Snapshot) : Session :=
  { s with world := s.world.restore snapshot }

end Session

end Fiction
