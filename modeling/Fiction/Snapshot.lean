import Fiction.Story.Record
import Fiction.World

/-!
# Fiction.Snapshot

Saved playthroughs.

A snapshot holds everything of a world but chance. `Snapshot.text` writes one and `Snapshot.parse?`
reads one.
-/

namespace Fiction

/-- A saved playthrough. -/
structure Snapshot where
  /-- The variables of the story. -/
  store : Store
  /-- How often each node was visited. -/
  visits : Mapping UInt32
  /-- The node that was rendered last. -/
  current : Option String
  /-- Whether the story is still going on. -/
  status : Status
deriving Repr, Inhabited

namespace World

/-- Saves a world. -/
def snapshot (w : World) : Snapshot :=
  ⟨w.store, w.visits, w.current, w.status⟩

/-- Takes over a snapshot; chance goes on as it was. -/
def restore (w : World) (s : Snapshot) : World :=
  ⟨s.store, s.visits, s.current, s.status, w.chance⟩

end World

namespace Snapshot

/-- A snapshot as data. -/
def toJson (s : Snapshot) : Json :=
  .object [
    ("store", s.store.toValue.toJson),
    ("visits", .object (s.visits.map fun (node, n) => (node, .int (Int64.ofNat n.toNat)))),
    ("current", match s.current with
      | some node => .text node
      | none => .null),
    ("status", .text s.status.name)]

/-- The text of a snapshot. -/
def text (s : Snapshot) : String :=
  s.toJson.compact

/-- Variables from data: an object, members in their order. -/
def store? : Json → Option Store
  | .object members =>
      match Value.ofJson (.object members) with
      | .mapping m => some ⟨m⟩
      | _ => none
  | _ => none

/-- A number of visits from data: an integer of 32 bits. -/
def count? : Json → Option UInt32
  | .int n =>
      if 0 ≤ n.toInt ∧ n.toInt < UInt32.size then some (UInt32.ofNat n.toInt.toNat) else none
  | _ => none

/-- A status from data: its name, or an object with its name as the key of null. -/
def status? : Json → Option Status
  | .text "unfolding" => some .unfolding
  | .text "finished" => some .finished
  | .object [("unfolding", .null)] => some .unfolding
  | .object [("finished", .null)] => some .finished
  | _ => none

/-- A snapshot from data. Only the variables have to be given. -/
def ofJson? (j : Json) : Option Snapshot := do
  match ← Record.fields? ["store", "visits", "current", "status"] j with
  | [some store, visits, current, status] =>
      return ⟨← store? store, ← Record.withDefault (Record.mapping? count?) [] visits,
        ← Record.optional Record.text? current, ← Record.withDefault status? .unfolding status⟩
  | _ => none

/-- Reads a snapshot. -/
def parse? (s : String) : Option Snapshot :=
  (Json.parse? s).bind ofJson?

end Snapshot

end Fiction
