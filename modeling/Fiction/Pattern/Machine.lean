import Fiction.Pattern.Reader

/-!
# Fiction.Pattern.Machine

Regular expressions as machines.

* `Instruction` is a state of a machine with the states it leads to.
* `Machine.ofPattern` writes a pattern out as a machine. States are built from the end of the
  pattern to its start, so each construction is given the state it continues with.
* `Machine.ofText?` reads a regular expression and builds its machine.
-/

namespace Fiction

/-- A state of a machine. -/
inductive Instruction where
  /-- Consumes a character of a set. -/
  | one (set : List (Nat × Nat)) (next : Nat)
  /-- Goes on in two ways and prefers the first. -/
  | fork (first second : Nat)
  /-- Goes on where a condition holds. -/
  | look (condition : Look) (next : Nat)
  /-- Notes the position in a slot. -/
  | note (slot : Nat) (next : Nat)
  /-- The text is matched. -/
  | accept
deriving Repr, Inhabited

/-- A machine for a pattern. -/
structure Machine where
  /-- The states. -/
  states : Array Instruction
  /-- The state to start in. -/
  start : Nat
  /-- The number of groups, the whole match included. -/
  groups : Nat
deriving Repr, Inhabited

namespace Machine

/-- A construction: given the state to continue with and the states so far, the state to enter and
the states with the new ones. -/
abbrev Build := Nat → Array Instruction → Nat × Array Instruction

/-- Adds a state. -/
def emit (i : Instruction) (states : Array Instruction) : Nat × Array Instruction :=
  (states.size, states.push i)

/-- A fork into a body and a way out, in the order of preference. -/
def choice (greedy : Bool) (body exit : Nat) : Instruction :=
  if greedy then .fork body exit else .fork exit body

/-- A construction, a number of times in a row. -/
def times : Nat → Build → Build
  | 0, _ => fun next states => (next, states)
  | n + 1, body => fun next states =>
      let (last, states) := body next states
      times n body last states

/-- A construction at most a number of times in a row, with a way out before each. -/
def optional (greedy : Bool) (body : Build) (exit : Nat) : Nat → Build
  | 0 => fun next states => (next, states)
  | n + 1 => fun next states =>
      let (entry, states) := body next states
      let (fork, states) := emit (choice greedy entry exit) states
      optional greedy body exit n fork states

/-- A construction once or more: behind it a fork leads back. -/
def plus (greedy : Bool) (body : Build) : Build := fun next states =>
  let (fork, states) := emit .accept states
  let (entry, states) := body fork states
  (entry, states.setIfInBounds fork (choice greedy entry next))

/-- A construction any number of times. If the body can match nothing, the way around it stands
apart from the fork that leads back, so that a round which matched nothing ends the loop. -/
def star (greedy : Bool) (canBeEmpty : Bool) (body : Build) : Build := fun next states =>
  if canBeEmpty then
    let (entry, states) := plus greedy body next states
    emit (choice greedy entry next) states
  else
    let (fork, states) := emit .accept states
    let (entry, states) := body fork states
    (fork, states.setIfInBounds fork (choice greedy entry next))

/-- The construction of a pattern. -/
def build : Pattern → Build
  | .empty => fun next states => (next, states)
  | .one set => fun next states => emit (.one set next) states
  | .look l => fun next states => emit (.look l next) states
  | .seq p q => fun next states =>
      let (middle, states) := build q next states
      build p middle states
  | .either p q => fun next states =>
      let (second, states) := build q next states
      let (first, states) := build p next states
      emit (.fork first second) states
  | .many p low high greedy => fun next states =>
      match high with
      | some high =>
          let (middle, states) := optional greedy (build p) next (high - low) next states
          times low (build p) middle states
      | none =>
          match low with
          | 0 => star greedy (p.shortest == 0) (build p) next states
          | low + 1 =>
              let (middle, states) := plus greedy (build p) next states
              times low (build p) middle states
  | .group number p => fun next states =>
      let (close, states) := emit (.note (2 * number + 1) next) states
      let (entry, states) := build p close states
      emit (.note (2 * number) entry) states

/-- The machine of a pattern; the whole match is its group 0. -/
def ofPattern (p : Pattern) : Machine :=
  let (final, states) := emit .accept #[]
  let (start, states) := build (.group 0 p) final states
  ⟨states, start, p.groups + 1⟩

/-- The machine of the regular expression that a text writes. -/
def ofText? (s : String) : Option Machine :=
  (Pattern.read? s).map ofPattern

end Machine

end Fiction
