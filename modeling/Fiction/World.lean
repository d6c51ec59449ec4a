import Fiction.Chance
import Fiction.Scope

/-!
# Fiction.World

All that one playthrough owns: its variables, the visits to nodes, the position and the source of
chance.
-/

namespace Fiction

/-- The state of a playthrough. -/
structure World where
  /-- The variables of the story. -/
  store : Store
  /-- How often each node was visited, in the order of first visits. -/
  visits : Mapping UInt32
  /-- The node that was rendered last. -/
  current : Option String
  /-- Whether the story is still going on. -/
  status : Status
  /-- The source of chance. -/
  chance : Chance
deriving Repr, Inhabited

namespace World

/-- The start of a playthrough. Chance starts from the seed, or else in the state that was drawn for
this start. -/
def start (store : Store) (seed : Option UInt64) (drawn : Chance) : World :=
  ⟨store, [], none, .unfolding, (seed.map Chance.ofSeed).getD drawn⟩

/-- How often a node was visited. -/
def visitCount (w : World) (node : String) : UInt32 :=
  (Mapping.get? w.visits node).getD 0

/-- Counts a visit to a node. Counts have 32 bits and wrap around. -/
def recordVisit (w : World) (node : String) : World :=
  { w with visits := Mapping.insert w.visits node (w.visitCount node + 1) }

/-- The visits as a mapping of integers. -/
def visited (w : World) : Mapping Value :=
  w.visits.map fun (node, count) => (node, .int (Int64.ofNat count.toNat))

end World

end Fiction
