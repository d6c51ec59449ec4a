import Fiction.Session
import Fiction.Text.Quoted

/-!
# Fiction.CommandLine.Game

Playing a story in lines of text.

* `Rendered.page` is a node with its numbered links.
* `Game` is a session with the node that is shown; `Game.begin` shows the start node and `Game.answer`
  answers a line of the player.
-/

namespace Fiction

/-- A number on the right of three places. -/
def placed (n : Nat) : String :=
  let digits := Decimal.ofNat n
  String.ofList (List.replicate (3 - digits.length) ' ') ++ digits

/-- The text of a node and its links, numbered from one. -/
def Rendered.page (r : Rendered) : String :=
  if r.links.isEmpty then r.text ++ "\n(the end)\n"
  else
    let lines := r.links.mapIdx fun i link => placed (i + 1) ++ ". " ++ link.label ++ "\n"
    r.text ++ "\n\n" ++ String.join lines

/-- A value as it is shown to the player: texts are quoted. -/
def Value.shown : Value → String
  | .text s => Text.quote s
  | v => v.display

namespace CommandLine

/-- What a player can ask for. -/
inductive Wish where
  /-- To follow the link with a number. -/
  | follow (number : Nat)
  /-- To start over. -/
  | reset
  /-- To stop. -/
  | quit
  /-- To see the value of an expression. -/
  | evaluate (expression : String)
  | unknown
deriving Repr, DecidableEq, Inhabited

/-- A number of links in decimal digits; a plus sign may stand in front of it. -/
def number? (cs : List Char) : Option Nat :=
  let digits := match cs with
    | '+' :: cs => cs
    | cs => cs
  if digits.isEmpty || !digits.all Char.isDigit then none
  else
    let n := Decimal.ofDigits digits
    if n < UInt64.size then some n else none

/-- What a line asks for. -/
def Wish.ofLine (line : String) : Wish :=
  let cs := Text.trim line.toList
  match cs with
  | ':' :: 'e' :: 'v' :: 'a' :: 'l' :: rest => .evaluate (String.ofList (Text.trim rest))
  | ['q'] | ['q', 'u', 'i', 't'] => .quit
  | ['r'] | ['r', 'e', 's', 'e', 't'] => .reset
  | cs =>
      match number? cs with
      | some n => .follow n
      | none => .unknown

/-- What waits for a line of the player. -/
def prompt : String := "> "

/-- A story that is being played. -/
structure Game where
  session : Session
  /-- The node that is shown. -/
  shown : Rendered
deriving Inhabited

/-- What a line of the player leads to. -/
structure Answer where
  /-- What the player reads. -/
  output : String := ""
  /-- What went wrong. -/
  fault : Option Fault := none
  /-- How the game goes on, unless it is over. -/
  game : Option Game
deriving Inhabited

namespace Game

/-- Starts to play a story. -/
def begin (session : Session) : Except Fault Game :=
  match session.start with
  | (.ok shown, session) => .ok ⟨session, shown⟩
  | (.error fault, _) => .error fault

/-- Shows a node, or stays where the game is. -/
def turn (g : Game) : Except Fault Rendered × Session → Answer
  | (.ok shown, session) => { output := shown.page, game := some ⟨session, shown⟩ }
  | (.error fault, session) => { fault := some fault, game := some { g with session } }

/-- Answers a line of the player. `drawn` is the state of chance for starting over without a seed. -/
def answer (g : Game) (drawn : Chance) (line : String) : Answer :=
  match Wish.ofLine line with
  | .quit => { game := none }
  | .reset => g.turn (g.session.reset drawn).start
  | .evaluate expression =>
      match g.session.evaluate expression with
      | .ok v => { output := v.shown ++ "\n", game := some g }
      | .error fault => { fault := some fault, game := some g }
  | .follow number =>
      match if number = 0 then none else g.shown.links[number - 1]? with
      | some link => g.turn (g.session.traverse link)
      | none =>
          let count := g.shown.links.length
          { output := s!"No link {Decimal.ofNat number}. Pick 1 to {Decimal.ofNat count}.\n"
            game := some g }
  | .unknown =>
      { output := "Enter a link number, r to restart, q to quit or :eval <expression>.\n"
        game := some g }

/-- Answers lines until the player stops or the lines end. A state of chance is drawn for each line. -/
def answers (g : Game) (drawn : Nat → Chance) : List String → String
  | [] => prompt
  | line :: lines =>
      let a := g.answer (drawn 0) line
      match a.game with
      | none => prompt ++ a.output
      | some g => prompt ++ a.output ++ g.answers (fun n => drawn (n + 1)) lines

end Game

/-- The lines of a text. -/
def lines (text : String) : List String :=
  let all := (Text.split ['\n'] text.toList).map String.ofList
  if all.getLast? == some "" then all.dropLast else all

end CommandLine

end Fiction
