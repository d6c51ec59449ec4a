import Fiction.Value.Basic

/-!
# Fiction.Value.Order

The order behind `<`, `>`, `<=` and `>=`.

Numbers compare by size, texts by their characters, booleans with false first and lists by their
first difference. Other pairs of kinds, and a number against a NaN, have no order.
-/

namespace Fiction

/-- Texts in the order of their code points, which is also the order of their UTF-8 bytes. -/
def Text.compareChars : List Char → List Char → Ordering
  | [], [] => .eq
  | [], _ :: _ => .lt
  | _ :: _, [] => .gt
  | c :: cs, d :: ds => (compare c.toNat d.toNat).then (compareChars cs ds)

namespace Value

/-- The order of two reals, if neither is a NaN. -/
def compareReal (x y : Float) : Option Ordering :=
  if x < y then some .lt else if x > y then some .gt else if x == y then some .eq else none

mutual

/-- The order of two values, if they have one. -/
def compare? : Value → Value → Option Ordering
  | int a, int b => some (compare a.toInt b.toInt)
  | int a, real y => compareReal (nearestReal a) y
  | real x, int b => compareReal x (nearestReal b)
  | real x, real y => compareReal x y
  | text a, text b => some (Text.compareChars a.toList b.toList)
  | bool a, bool b => some (compare a.toNat b.toNat)
  | list xs, list ys => compareList? xs ys
  | _, _ => none

/-- The order of two lists: their first difference decides, then their length. A pair of elements
without an order before that leaves the lists without one. -/
def compareList? : List Value → List Value → Option Ordering
  | [], [] => some .eq
  | [], _ :: _ => some .lt
  | _ :: _, [] => some .gt
  | x :: xs, y :: ys =>
      match compare? x y with
      | some .eq => compareList? xs ys
      | other => other

end

end Value

end Fiction
