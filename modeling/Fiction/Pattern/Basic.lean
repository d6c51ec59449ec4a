import Fiction.Unicode.Range

/-!
# Fiction.Pattern.Basic

Regular expressions.

* `Look` lists the conditions on a position that consume nothing.
* `Pattern` is a regular expression whose flags are resolved: a character class is a set of code
  points, and every repetition knows whether it prefers more or fewer rounds.
* `Pattern.shortest` is a lower bound on the length of a match.
* `Pattern.weight` estimates the room a pattern takes once repetitions are written out; patterns
  above `Pattern.weightLimit` are refused.
-/

namespace Fiction

open Unicode (Ranges)

/-- A condition on a position of the text. -/
inductive Look where
  /-- The start of the text. -/
  | start
  /-- The end of the text. -/
  | stop
  /-- The start of a line; a carriage return ends lines as well when `crlf` holds. -/
  | lineStart (crlf : Bool)
  /-- The end of a line. -/
  | lineStop (crlf : Bool)
  /-- A word character on exactly one side. -/
  | boundary (unicode : Bool)
  /-- A word character on both sides or on neither. -/
  | interior (unicode : Bool)
  /-- A word character after the position and none before. -/
  | wordStart (unicode : Bool)
  /-- A word character before the position and none after. -/
  | wordStop (unicode : Bool)
  /-- No word character before the position. -/
  | wordStartHalf (unicode : Bool)
  /-- No word character after the position. -/
  | wordStopHalf (unicode : Bool)
deriving Repr, DecidableEq

/-- A regular expression. -/
inductive Pattern where
  /-- Matches the empty text. -/
  | empty
  /-- Matches one character of a set. -/
  | one (set : List (Nat × Nat))
  /-- Matches the empty text where a condition holds. -/
  | look (condition : Look)
  /-- Matches the first pattern and then the second. -/
  | seq (first second : Pattern)
  /-- Matches either pattern and prefers the first. -/
  | either (first second : Pattern)
  /-- Matches a pattern at least `low` times and at most `high` times, as often as possible when
  `greedy` holds and as rarely as possible otherwise. -/
  | many (body : Pattern) (low : Nat) (high : Option Nat) (greedy : Bool)
  /-- Matches a pattern and notes what it matched as a group. -/
  | group (number : Nat) (body : Pattern)
deriving Repr

namespace Pattern

/-- A number of characters that every match has at least. -/
def shortest : Pattern → Nat
  | empty => 0
  | one _ => 1
  | look _ => 0
  | seq p q => p.shortest + q.shortest
  | either p q => min p.shortest q.shortest
  | many p low _ _ => low * p.shortest
  | group _ p => p.shortest

/-- The greatest group number in a pattern. -/
def groups : Pattern → Nat
  | empty | one _ | look _ => 0
  | seq p q | either p q => max p.groups q.groups
  | many p _ _ _ => p.groups
  | group number p => max number p.groups

/-- The room for one state of a machine. -/
def stateWeight : Nat := 32

/-- The room for a character class. A class of ASCII is one state with its ranges; others branch
on the bytes of the encoding, which takes about as much again for each range. -/
def classWeight (set : Ranges) : Nat :=
  if set.all fun r => decide (r.2 < 128) then stateWeight + 8 * set.length
  else match set with
    | [(lo, hi)] => if lo = hi then 3 * stateWeight else 12 * stateWeight
    | _ => 8 * stateWeight + 22 * set.length

/-- The room a pattern takes once repetitions are written out. -/
def weight : Pattern → Nat
  | empty => stateWeight
  | one set => classWeight set
  | look _ => stateWeight
  | seq p q => p.weight + q.weight
  | either p q => p.weight + q.weight + stateWeight + 16
  | many p low high _ =>
      match high with
      | none => max low 1 * p.weight + stateWeight + 16
      | some high => high * p.weight + (high - low) * (stateWeight + 16)
  | group _ p => p.weight + 2 * stateWeight

/-- The greatest weight of a pattern that is accepted. -/
def weightLimit : Nat := 10 * 1024 * 1024

end Pattern

end Fiction
