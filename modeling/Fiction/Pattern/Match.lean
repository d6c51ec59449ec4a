import Fiction.Pattern.Machine

/-!
# Fiction.Pattern.Match

Running the machine of a regular expression on a text.

* `Machine.find?` finds the leftmost match from a position on, and among the matches there the one
  that the pattern prefers.
* `Machine.hasMatch` tells whether there is one.
* `Machine.findAll` finds one match after the other. An empty match right behind the previous match
  does not count.

The machine is in several states at once, kept in the order of preference. A state that was
reached before at the same position is not entered again, so the work is bounded by the number of
states times the length of the text.
-/

namespace Fiction.Machine

open Unicode (Ranges)

/-- The positions noted so far, two for each group. -/
abbrev Slots := Array (Option Nat)

/-- A state the machine is in, with what was noted on the way to it. -/
structure Thread where
  /-- The state. -/
  state : Nat
  /-- The positions noted. -/
  slots : Slots
deriving Inhabited

/-- The states at one position. -/
structure Front where
  /-- The states that consume or accept, the preferred first. -/
  threads : Array Thread
  /-- All states that were entered. -/
  entered : Array Bool

/-! ## Conditions on positions -/

/-- A character that words are made of. -/
def isWordAt (unicode : Bool) (c : Option Char) : Bool :=
  match c with
  | none => false
  | some c =>
      if decide (c.toNat < 128) || !unicode then c.isAlphanum || c = '_'
      else Unicode.wordRanges.has c.toNat

/-- Whether a condition holds between two characters. -/
def holds (before after : Option Char) : Look → Bool
  | .start => before.isNone
  | .stop => after.isNone
  | .lineStart crlf =>
      if crlf then
        before.isNone || before == some '\n' || (before == some '\r' && after != some '\n')
      else before.isNone || before == some '\n'
  | .lineStop crlf =>
      if crlf then
        after.isNone || after == some '\r' || (after == some '\n' && before != some '\r')
      else after.isNone || after == some '\n'
  | .boundary u => isWordAt u before != isWordAt u after
  | .interior u => isWordAt u before == isWordAt u after
  | .wordStart u => !isWordAt u before && isWordAt u after
  | .wordStop u => isWordAt u before && !isWordAt u after
  | .wordStartHalf u => !isWordAt u before
  | .wordStopHalf u => !isWordAt u after

/-- The character in front of a position. -/
def charBefore (text : Array Char) (pos : Nat) : Option Char :=
  if pos = 0 then none else text[pos - 1]?

/-! ## One step -/

/-- Enters states without consuming anything. The stack holds what is still to be entered, the
preferred first; the first argument bounds the number of steps, of which each state takes at most
two. -/
def enter (m : Machine) (text : Array Char) (pos : Nat) :
    Nat → List Thread → Front → Front
  | 0, _, front => front
  | _, [], front => front
  | n + 1, t :: stack, front =>
      if front.entered.getD t.state true then enter m text pos n stack front
      else
        let front := { front with entered := front.entered.setIfInBounds t.state true }
        match m.states.getD t.state .accept with
        | .fork first second =>
            enter m text pos n (⟨first, t.slots⟩ :: ⟨second, t.slots⟩ :: stack) front
        | .look l next =>
            if holds (charBefore text pos) text[pos]? l then
              enter m text pos n (⟨next, t.slots⟩ :: stack) front
            else enter m text pos n stack front
        | .note slot next =>
            enter m text pos n (⟨next, t.slots.setIfInBounds slot (some pos)⟩ :: stack) front
        | .one _ _ | .accept =>
            enter m text pos n stack { front with threads := front.threads.push t }

/-- A bound on the steps of `enter`. -/
def enterBound (m : Machine) : Nat :=
  2 * m.states.size + 2

/-- No states. -/
def emptyFront (m : Machine) : Front :=
  ⟨#[], Array.replicate m.states.size false⟩

/-- Consumes the character at a position. A state that accepts cuts off all that are less
preferred. -/
def advance (m : Machine) (text : Array Char) (pos : Nat) :
    List Thread → Front → Option Slots → Front × Option Slots
  | [], next, best => (next, best)
  | t :: rest, next, best =>
      match m.states.getD t.state .accept with
      | .one set after =>
          match text[pos]? with
          | some c =>
              if Ranges.has set c.toNat then
                advance m text pos rest
                  (enter m text (pos + 1) (enterBound m) [⟨after, t.slots⟩] next) best
              else advance m text pos rest next best
          | none => advance m text pos rest next best
      | _ => (next, some t.slots)

/-- Runs the machine from a position on. Until something is found a new run starts at every
position, less preferred than those that started before. The first argument bounds the positions
that are left. -/
def run (m : Machine) (text : Array Char) : Nat → Nat → Front → Option Slots → Option Slots
  | 0, _, _, best => best
  | n + 1, pos, front, best =>
      if best.isSome && front.threads.isEmpty then best
      else
        let front :=
          if best.isSome then front
          else
            enter m text pos (enterBound m) [⟨m.start, Array.replicate (2 * m.groups) none⟩] front
        let (next, best) := advance m text pos front.threads.toList (emptyFront m) best
        run m text n (pos + 1) next best

/-! ## Matches -/

/-- Where a match and its groups start and stop. -/
abbrev Found := Slots

/-- The range of a group, if the group took part in the match. -/
def range? (found : Found) (number : Nat) : Option (Nat × Nat) := do
  let start ← (← found[2 * number]?)
  let stop ← (← found[2 * number + 1]?)
  some (start, stop)

/-- The leftmost match that starts at a position or behind it. -/
def find? (m : Machine) (text : Array Char) (pos : Nat) : Option Found :=
  run m text (text.size + 1 - pos) pos (emptyFront m) none

/-- Whether a text has a match. -/
def hasMatch (m : Machine) (text : Array Char) : Bool :=
  (m.find? text 0).isSome

/-- One match after the other. The first argument bounds their number. -/
def findFrom (m : Machine) (text : Array Char) : Nat → Nat → Option Nat → List (Nat × Nat × Found)
  | 0, _, _ => []
  | n + 1, pos, last =>
      let next :=
        match locate (m.find? text pos) with
        | some (start, stop, found) =>
            if start = stop && last = some stop then locate (m.find? text (pos + 1))
            else some (start, stop, found)
        | none => none
      match next with
      | none => []
      | some (start, stop, found) => (start, stop, found) :: findFrom m text n stop (some stop)
where
  /-- A match with its own range. -/
  locate (found : Option Found) : Option (Nat × Nat × Found) := do
    let found ← found
    let (start, stop) ← range? found 0
    some (start, stop, found)

/-- All matches, from left to right and without overlap. -/
def findAll (m : Machine) (text : Array Char) : List (Nat × Nat × Found) :=
  findFrom m text (text.size + 2) 0 none

/-- The pieces of a text between the matches. -/
def split (m : Machine) (text : Array Char) : List (List Char) :=
  pieces 0 (m.findAll text)
where
  /-- The pieces from a position on. -/
  pieces (pos : Nat) : List (Nat × Nat × Found) → List (List Char)
    | [] => [(text.extract pos text.size).toList]
    | (start, stop, _) :: rest => (text.extract pos start).toList :: pieces stop rest

/-- The text of a group; a group that took no part or does not exist has the empty text. -/
def groupText (text : Array Char) (found : Found) (number : Nat) : List Char :=
  match range? found number with
  | some (start, stop) => (text.extract start stop).toList
  | none => []

/-- The text with matches replaced, each by what is made of its groups. -/
def replace (text : Array Char) (fill : (Nat → List Char) → List Char) :
    Nat → List (Nat × Nat × Found) → List Char
  | pos, [] => (text.extract pos text.size).toList
  | pos, (start, stop, found) :: rest =>
      (text.extract pos start).toList ++ fill (groupText text found) ++ replace text fill stop rest

end Fiction.Machine
