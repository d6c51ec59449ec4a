import Fiction.Decimal.Natural

/-!
# Fiction.Decimal.Shortest

The shortest decimal that reads back as a given double.

* `Magnitude` is a double without its sign: `significand * 2 ^ exponent`.
* `Scaled` is a decimal without its sign: `digits * 10 ^ exponent`.
* `shortest` finds the `Scaled` with the fewest digits that lies in the interval of reals which
  round to the double, and of two such the nearer one.

Everything is exact arithmetic on natural numbers; the bit pattern of the double is the only
thing taken from the machine.
-/

namespace Fiction.Decimal

/-- A finite double without its sign, as `significand * 2 ^ exponent`. -/
structure Magnitude where
  /-- The integer the powers of two scale. -/
  significand : Nat
  /-- The power of two. -/
  exponent : Int
deriving Repr, DecidableEq, Inhabited

/-- A decimal without its sign, as `coefficient * 10 ^ exponent`. -/
structure Scaled where
  /-- The digits, as a number. -/
  coefficient : Nat
  /-- The power of ten. -/
  exponent : Int
deriving Repr, DecidableEq, Inhabited

/-- What a bit pattern of 64 bits says about a double. -/
inductive Double where
  /-- Not a number. -/
  | nan
  /-- An infinity and whether it is negative. -/
  | infinite (negative : Bool)
  /-- A number, zeros of both signs included. -/
  | finite (negative : Bool) (magnitude : Magnitude)
deriving Repr, DecidableEq, Inhabited

/-- Takes a bit pattern apart into sign, exponent and significand. -/
def Double.ofBits (bits : Nat) : Double :=
  let negative := bits / Nat.pow 2 63 % 2 == 1
  let biased : Nat := bits / Nat.pow 2 52 % Nat.pow 2 11
  let low := bits % Nat.pow 2 52
  if biased == 2047 then
    if low == 0 then .infinite negative else .nan
  else if biased == 0 then
    .finite negative ⟨low, -1074⟩
  else
    .finite negative ⟨Nat.pow 2 52 + low, (biased : Int) - 1075⟩

/-- The double behind a float. -/
def Double.ofFloat (x : Float) : Double :=
  Double.ofBits x.toBits.toNat

namespace Magnitude

/-- The magnitude as a fraction. -/
def fraction (m : Magnitude) : Nat × Nat :=
  match m.exponent with
  | .ofNat e => (m.significand * Nat.pow 2 e, 1)
  | .negSucc e => (m.significand, Nat.pow 2 (e + 1))

/-- A magnitude with no fractional part. -/
def isIntegral (m : Magnitude) : Bool :=
  m.fraction.1 % m.fraction.2 == 0

/-- The magnitude cut down to an integer. -/
def floor (m : Magnitude) : Nat :=
  m.fraction.1 / m.fraction.2

/-- The decimal exponent of the leading digit of a magnitude that is not zero. Every double is
above `10 ^ (-400)`, so the shift makes the quotient positive. -/
def leadingExponent (m : Magnitude) : Int :=
  let (num, den) := m.fraction
  ((digits (num * Nat.pow 10 400 / den)).length : Int) - 401

end Magnitude

/-- Whether a decimal lies in the interval of reals that round to the double `m`. The ends, half
way to the neighbouring doubles, belong to it when the significand is even. The gap below a
power of two is half as wide. -/
def roundsTo (m : Magnitude) (s : Scaled) : Bool :=
  let below := if m.significand == Nat.pow 2 52 && m.exponent != -1074 then 1 else 2
  let (num, den) := (⟨1, m.exponent - 2⟩ : Magnitude).fraction
  let (tenNum, tenDen) : Nat × Nat :=
    match s.exponent with
    | .ofNat e => (Nat.pow 10 e, 1)
    | .negSucc e => (1, Nat.pow 10 (e + 1))
  let here := s.coefficient * tenNum * den
  let low := (4 * m.significand - below) * num * tenDen
  let high := (4 * m.significand + 2) * num * tenDen
  if m.significand % 2 == 0 then low ≤ here && here ≤ high else low < here && here < high

/-- The two neighbours of a magnitude on the grid of multiples of `10 ^ exponent`, the nearer one
first. At equal distance the even one is first. -/
def neighbours (m : Magnitude) (exponent : Int) : List Scaled :=
  let (num, den) := m.fraction
  let (num, den) :=
    match exponent with
    | .ofNat e => (num, den * Nat.pow 10 e)
    | .negSucc e => (num * Nat.pow 10 (e + 1), den)
  let down := num / den
  let twice := 2 * (num % den)
  let lower : Scaled := ⟨down, exponent⟩
  let upper : Scaled := ⟨down + 1, exponent⟩
  if twice < den || (twice == den && down % 2 == 0) then [lower, upper] else [upper, lower]

/-- Moves trailing zeros of the coefficient into the exponent. -/
def Scaled.strip (s : Scaled) : Scaled :=
  go s.coefficient s.exponent s.coefficient
where
  /-- Divides by ten while that is exact; a coefficient has fewer digits than its value. -/
  go (coefficient : Nat) (exponent : Int) : Nat → Scaled
    | 0 => ⟨coefficient, exponent⟩
    | fuel + 1 =>
        if coefficient != 0 && coefficient % 10 == 0 then go (coefficient / 10) (exponent + 1) fuel
        else ⟨coefficient, exponent⟩

/-- The decimal with the fewest digits that reads back as `m`, which must not be zero. Seventeen
digits always suffice. -/
def shortest (m : Magnitude) : Scaled :=
  let lead := m.leadingExponent
  let candidates := (List.range 17).flatMap fun n => neighbours m (lead - (n : Nat))
  ((candidates.find? (roundsTo m)).getD ⟨m.floor, 0⟩).strip

end Fiction.Decimal
