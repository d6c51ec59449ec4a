import Fiction.CommandLine.Game
import Fiction.CommandLine.Help
import Fiction.CommandLine.Shelf
import Fiction.Story.Load

/-!
# Fiction.CommandLine.Run

Carrying out a command line.

`run` gives what a command line prints and its exit code: 0 if all went well, 1 if a story or the
settings have problems, and 2 for a command line that cannot be read.
-/

namespace Fiction.CommandLine

/-- What a command line leads to. -/
structure Response where
  /-- The exit code. -/
  exit : Nat := 0
  /-- What is printed. -/
  output : String := ""
  /-- What went wrong. -/
  faults : List Fault := []
deriving Inhabited

/-- The response to a fault that ends everything. -/
def Response.ofFault (fault : Fault) : Response :=
  { exit := 1, faults := [fault] }

/-- The settings of a file, or those that hold without one. -/
def loadSettings (shelf : Shelf) : Option String → Except Fault Settings
  | none => .ok {}
  | some path =>
      match shelf.read? path with
      | some text => Settings.parse text
      | none => .error (.unsourced .unreadableFile .configure)

/-- The form of the stories in files with an extension. -/
def form? : Option String → Option StoryForm
  | some "flj" => some .data
  | some "fls" => some .manuscript
  | _ => none

/-- Reads a story from a file. -/
def loadStory (shelf : Shelf) (path : String) : Except Fault Story :=
  match shelf.read? path with
  | some text => Story.parse (form? (extension? path)) ⟨path, text⟩
  | none => .error (.unsourced .unreadableFile .load)

/-- Prepares to play the story of a file. -/
def openSession (shelf : Shelf) (settings : Settings) (drawn : Chance) (path : String) :
    Except Fault Session := do
  Session.ofStory (← loadStory shelf path) settings drawn

/-! ## Actions -/

/-- Shows a node of a story. -/
def render (session : Session) (node : Option String) : Response :=
  match (match node with | some node => session.render node | none => session.start) with
  | (.ok rendered, _) => { output := rendered.page }
  | (.error fault, _) => .ofFault fault

/-- Plays a story with a player who gives these lines. -/
def play (session : Session) (drawn : Nat → Chance) (input : List String) : Response :=
  match Game.begin session with
  | .ok game => { output := game.shown.page ++ game.answers drawn input }
  | .error fault => .ofFault fault

/-- The problems of a story. -/
def problems (shelf : Shelf) (path : String) : List Fault :=
  match loadStory shelf path with
  | .ok story => story.problems
  | .error fault => [fault]

/-- The line on a story that was checked. -/
def verdict (path : String) (count : Nat) : String :=
  match count with
  | 0 => s!"ok  {path}\n"
  | 1 => s!"FAILED  {path} (1 problem)\n"
  | n => s!"FAILED  {path} ({Decimal.ofNat n} problems)\n"

/-- Checks the stories under a path. -/
def check (shelf : Shelf) (path : String) : Response :=
  let files := (shelf.under path).filter fun file => (form? (extension? file)).isSome
  if files.isEmpty then { exit := 1 }
  else
    let checked := files.map fun file => (file, problems shelf file)
    let failed := (checked.filter fun c => !c.2.isEmpty).length
    let verdicts := String.join (checked.map fun c => verdict c.1 c.2.length)
    let total := Decimal.ofNat files.length
    { exit := if failed = 0 then 0 else 1
      output := verdicts ++ s!"\n{total} stories checked, {Decimal.ofNat failed} failed\n"
      faults := checked.flatMap Prod.snd }

/-- Carries out an action. States of chance are drawn for opening a story and for each line. -/
def act (shelf : Shelf) (settings : Settings) (drawn : Nat → Chance) (input : List String) :
    Action → Response
  | .render story node =>
      match openSession shelf settings (drawn 0) story with
      | .ok session => render session node
      | .error fault => .ofFault fault
  | .play story =>
      match openSession shelf settings (drawn 0) story with
      | .ok session => play session (fun n => drawn (n + 1)) input
      | .error fault => .ofFault fault
  | .check path => check shelf path

/-- Carries out a command line with the files of a shelf and a player who gives these lines. -/
def run (shelf : Shelf) (words : List String) (drawn : Nat → Chance) (input : List String) : Response :=
  match Request.ofWords words with
  | .invalid => { exit := 2 }
  | .help topic => { output := topic.text }
  | .version => { output := versionText }
  | .run arguments =>
      match loadSettings shelf arguments.settings with
      | .ok settings => act shelf settings drawn input arguments.action
      | .error fault => .ofFault fault

end Fiction.CommandLine
