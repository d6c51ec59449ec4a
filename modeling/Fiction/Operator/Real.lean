import Fiction.Decimal.Shortest

/-!
# Fiction.Operator.Real

The remainder of reals.

`Real.remainder` is exact: both magnitudes are brought to a common power of two and divided as
natural numbers. It takes the sign of the dividend; `Real.floorMod` takes that of the divisor.
-/

namespace Fiction.Real

open Decimal (Double Magnitude)

/-- A double from its sign, an integer and a power of two. The integer has at most 53 bits. -/
def ofParts (negative : Bool) (significand : Nat) (exponent : Int) : Float :=
  let magnitude := Float.scaleB (Float.ofNat significand) exponent
  if negative then -magnitude else magnitude

/-- The remainder of a division toward zero. -/
def remainder (x y : Float) : Float :=
  match Double.ofFloat x, Double.ofFloat y with
  | .finite negative a, .finite _ b =>
      if b.significand = 0 then 0.0 / 0.0
      else
        let low := min a.exponent b.exponent
        let m := a.significand * Nat.pow 2 (a.exponent - low).toNat
        let n := b.significand * Nat.pow 2 (b.exponent - low).toNat
        ofParts negative (m % n) low
  | .finite _ _, .infinite _ => x
  | _, _ => 0.0 / 0.0

/-- The remainder with the sign of the divisor. -/
def floorMod (x y : Float) : Float :=
  let r := remainder x y
  if r != 0.0 && (decide (r < 0.0) != decide (y < 0.0)) then r + y else r

end Fiction.Real
