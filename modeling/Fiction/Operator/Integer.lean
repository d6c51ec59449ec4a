import Fiction.Value.Basic

/-!
# Fiction.Operator.Integer

Arithmetic on integers of 64 bits.

Results are computed exactly and then fitted into 64 bits; what does not fit is no result. The
quotient rounds toward negative infinity and the remainder takes the sign of the divisor.
-/

namespace Fiction.Integer

/-- The least integer of 64 bits. -/
def least : Int := -9223372036854775808

/-- The greatest integer of 64 bits. -/
def greatest : Int := 9223372036854775807

/-- The integer of 64 bits with this value, if there is one. -/
def fit? (n : Int) : Option Int64 :=
  if least ≤ n ∧ n ≤ greatest then some (Int64.ofInt n) else none

/-- Sum. -/
def add? (a b : Int64) : Option Int64 :=
  fit? (a.toInt + b.toInt)

/-- Difference. -/
def sub? (a b : Int64) : Option Int64 :=
  fit? (a.toInt - b.toInt)

/-- Product. -/
def mul? (a b : Int64) : Option Int64 :=
  fit? (a.toInt * b.toInt)

/-- Negation. -/
def neg? (a : Int64) : Option Int64 :=
  fit? (-a.toInt)

/-- The quotient toward zero. -/
def quotient? (a b : Int64) : Option Int64 :=
  if b == 0 then none else fit? (a.toInt.tdiv b.toInt)

/-- The remainder that goes with the quotient toward zero. It exists when the quotient does. -/
def remainder? (a b : Int64) : Option Int64 := do
  let _ ← quotient? a b
  fit? (a.toInt.tmod b.toInt)

/-- Two integers of which exactly one is negative. -/
def signsDiffer (a b : Int64) : Bool :=
  decide (a.toInt < 0) != decide (b.toInt < 0)

/-- The quotient toward negative infinity: one less than that toward zero when the division is not
exact and the signs differ. -/
def floorDiv? (a b : Int64) : Option Int64 := do
  let q ← quotient? a b
  let r ← remainder? a b
  if r != 0 && signsDiffer a b then fit? (q.toInt - 1) else some q

/-- The remainder with the sign of the divisor. -/
def floorMod? (a b : Int64) : Option Int64 := do
  let r ← remainder? a b
  if r != 0 && signsDiffer r b then fit? (r.toInt + b.toInt) else some r

/-- The greatest exponent that is tried. -/
def exponentLimit : Nat := 4294967295

/-- The power with an exponent that is not negative. A base other than 0, 1 and -1 outgrows 64 bits
before the 64th power, so higher powers are not computed. -/
def pow? (a : Int64) (exponent : Nat) : Option Int64 :=
  if exponent > exponentLimit then none
  else if a == 0 || a == 1 then some (if exponent = 0 then 1 else a)
  else if a == -1 then some (if exponent % 2 = 0 then 1 else a)
  else if exponent ≥ 64 then none
  else fit? (Int.pow a.toInt exponent)

end Fiction.Integer
