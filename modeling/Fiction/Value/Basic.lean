import Fiction.Mapping
import Fiction.Value.Kind

/-!
# Fiction.Value.Basic

The values that expressions compute with and that a playthrough stores.

* `Value` is the type; integers are 64 bits wide and reals are doubles.
* `Value.kind`, `Value.isTruthy` and `Value.zeroLike` read off a value what conditions and
  reductions need.
* `Value.beq` is the equality of the language: an integer equals the real of the same value, and
  the order of a mapping's entries does not matter.
-/

namespace Fiction

/-- A value of the expression language. -/
inductive Value where
  /-- The absence of a value; it renders as nothing. -/
  | null
  /-- True or false. -/
  | bool (b : Bool)
  /-- A 64-bit integer. -/
  | int (n : Int64)
  /-- A double. -/
  | real (x : Float)
  /-- A text. -/
  | text (s : String)
  /-- A list of values. -/
  | list (items : List Value)
  /-- A mapping from text to values, in insertion order. -/
  | mapping (entries : List (String × Value))
deriving Repr, Inhabited

namespace Value

/-- The kind of a value. -/
def kind : Value → Kind
  | null => .null
  | bool _ => .boolean
  | int _ => .integer
  | real _ => .real
  | text _ => .text
  | list _ => .list
  | mapping _ => .mapping

/-- The value as a condition: null, false, zero and whatever is empty are false. -/
def isTruthy : Value → Bool
  | null => false
  | bool b => b
  | int n => n != 0
  | real x => x != 0.0
  | text s => s != ""
  | list items => !items.isEmpty
  | mapping entries => !entries.isEmpty

/-- The real nearest to an integer; of two that are equally near, the even one. -/
def nearestReal (n : Int64) : Float :=
  Float.ofInt n.toInt

/-- Integers and reals as reals. -/
def asReal? : Value → Option Float
  | int n => some (nearestReal n)
  | real x => some x
  | _ => none

/-- The neutral value of the same kind: what a reduction of an empty list gives. -/
def zeroLike : Value → Value
  | null => null
  | bool _ => bool false
  | int _ => int 0
  | real _ => real 0.0
  | text _ => text ""
  | list _ => list []
  | mapping _ => mapping []

/-! ## Equality -/

mutual

/-- The equality of the language. Two mappings are equal when they have the same number of
entries and every key of the first holds an equal value in the second. -/
def beq : Value → Value → Bool
  | null, null => true
  | bool a, bool b => a == b
  | int a, int b => a == b
  | int a, real y => nearestReal a == y
  | real x, int b => x == nearestReal b
  | real x, real y => x == y
  | text a, text b => a == b
  | list xs, list ys => beqList xs ys
  | mapping m, mapping m' => m.length == m'.length && beqEntries m m'
  | _, _ => false

/-- Equality of lists, element by element. -/
def beqList : List Value → List Value → Bool
  | [], [] => true
  | x :: xs, y :: ys => beq x y && beqList xs ys
  | _, _ => false

/-- Every entry has an equal one under the same key in the other mapping. -/
def beqEntries : List (String × Value) → List (String × Value) → Bool
  | [], _ => true
  | (k, v) :: rest, other =>
      (match Mapping.get? other k with
        | some w => beq v w
        | none => false) && beqEntries rest other

end

instance : BEq Value := ⟨beq⟩

end Value

end Fiction
