import Fiction.Json.Basic
import Fiction.Value.Order

/-!
# Fiction.Value.Exchange

Values as data trees and back.

* `Value.ofJson` keeps the order in which the members of an object were written.
* `Value.ofSorted` puts the members in the order of their keys, as a reader without an order of
  its own does. It is used for the state and the commands of a story.
* `Value.toJson` and `Value.toSorted` are the two ways back.

In all of them the last value of a repeated key counts.
-/

namespace Fiction

/-- The order of keys. -/
def Text.keyLe (a b : String) : Bool :=
  Text.compareChars a.toList b.toList != .gt

/-- Entries in the order of their keys; among repeated keys the last one counts. -/
def Mapping.sorted {α : Type u} (entries : List (String × α)) : Mapping α :=
  (Mapping.ofEntries entries).mergeSort fun a b => Text.keyLe a.1 b.1

namespace Value

mutual

/-- The value of a tree, members in the order in which they were written. -/
def ofJson : Json → Value
  | .null => null
  | .bool b => bool b
  | .int n => int n
  | .real x => real x
  | .text s => text s
  | .array items => list (ofJsonItems items)
  | .object members => mapping (Mapping.ofEntries (ofJsonMembers members))

/-- The values of the elements of an array. -/
def ofJsonItems : List Json → List Value
  | [] => []
  | j :: rest => ofJson j :: ofJsonItems rest

/-- The values of the members of an object. -/
def ofJsonMembers : List (String × Json) → List (String × Value)
  | [] => []
  | (k, j) :: rest => (k, ofJson j) :: ofJsonMembers rest

end

mutual

/-- The value of a tree, members in the order of their keys. -/
def ofSorted : Json → Value
  | .null => null
  | .bool b => bool b
  | .int n => int n
  | .real x => real x
  | .text s => text s
  | .array items => list (ofSortedItems items)
  | .object members => mapping (Mapping.sorted (ofSortedMembers members))

/-- The values of the elements of an array. -/
def ofSortedItems : List Json → List Value
  | [] => []
  | j :: rest => ofSorted j :: ofSortedItems rest

/-- The values of the members of an object. -/
def ofSortedMembers : List (String × Json) → List (String × Value)
  | [] => []
  | (k, j) :: rest => (k, ofSorted j) :: ofSortedMembers rest

end

/-- A real as a number, or null when it is not finite. -/
def realToJson (x : Float) : Json :=
  if x.isFinite then .real x else .null

mutual

/-- The tree of a value, members in the order of its mappings. -/
def toJson : Value → Json
  | null => .null
  | bool b => .bool b
  | int n => .int n
  | real x => realToJson x
  | text s => .text s
  | list items => .array (toJsonItems items)
  | mapping entries => .object (toJsonMembers entries)

/-- The trees of the elements of a list. -/
def toJsonItems : List Value → List Json
  | [] => []
  | v :: rest => toJson v :: toJsonItems rest

/-- The members for the entries of a mapping. -/
def toJsonMembers : List (String × Value) → List (String × Json)
  | [] => []
  | (k, v) :: rest => (k, toJson v) :: toJsonMembers rest

end

mutual

/-- The tree of a value, members in the order of their keys. -/
def toSorted : Value → Json
  | null => .null
  | bool b => .bool b
  | int n => .int n
  | real x => realToJson x
  | text s => .text s
  | list items => .array (toSortedItems items)
  | mapping entries => .object (Mapping.sorted (toSortedMembers entries))

/-- The trees of the elements of a list. -/
def toSortedItems : List Value → List Json
  | [] => []
  | v :: rest => toSorted v :: toSortedItems rest

/-- The members for the entries of a mapping. -/
def toSortedMembers : List (String × Value) → List (String × Json)
  | [] => []
  | (k, v) :: rest => (k, toSorted v) :: toSortedMembers rest

end

end Value

end Fiction
