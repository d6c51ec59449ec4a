import Fiction.Json.Basic
import Fiction.Decimal.Layout

/-!
# Fiction.Json.Number

Numbers in data files.

* `Literal` is a number as written: sign, digits before and after the point, exponent.
* `Literal.read` splits one off the front of a text.
* `Literal.toJson?` gives its value. Integers that fit in 64 bits are exact. Everything else is a
  double, computed from the digits that fit in an unsigned 64-bit word and one or more
  multiplications or divisions by a power of ten; a result beyond the range of doubles is no
  number.
-/

namespace Fiction.Json

/-- A number as written. -/
structure Literal where
  /-- Whether it starts with a minus sign. -/
  negative : Bool
  /-- The digits before the point. -/
  whole : List Char
  /-- The digits after the point; empty when there is none. -/
  fraction : List Char
  /-- The exponent, if there is one. -/
  exponent : Option Int
deriving Repr, DecidableEq

namespace Literal

/-- Splits off the digits a text starts with. -/
def takeDigits (cs : List Char) : List Char × List Char :=
  (cs.takeWhile Char.isDigit, cs.dropWhile Char.isDigit)

/-- Splits off the digits before the point: a zero stands alone. -/
def readWhole (cs : List Char) : Option (List Char × List Char) :=
  match takeDigits cs with
  | ([], _) => none
  | (['0'], rest) => some (['0'], rest)
  | ('0' :: _, _) => none
  | (ds, rest) => some (ds, rest)

/-- Splits off a point and at least one digit, if there is a point. -/
def readFraction : List Char → Option (List Char × List Char)
  | '.' :: rest =>
      match takeDigits rest with
      | ([], _) => none
      | (ds, rest) => some (ds, rest)
  | cs => some ([], cs)

/-- Splits off the digits of an exponent, of which there is at least one. -/
def readPower (negative : Bool) (cs : List Char) : Option (Option Int × List Char) :=
  match takeDigits cs with
  | ([], _) => none
  | (ds, rest) =>
      let power : Int := Decimal.ofDigits ds
      some (some (if negative then -power else power), rest)

/-- Splits off an exponent, if there is one. -/
def readExponent : List Char → Option (Option Int × List Char)
  | c :: rest =>
      if c = 'e' || c = 'E' then
        match rest with
        | '+' :: rest => readPower false rest
        | '-' :: rest => readPower true rest
        | rest => readPower false rest
      else some (none, c :: rest)
  | [] => some (none, [])

/-- Splits a number off the front of a text. -/
def read (cs : List Char) : Option (Literal × List Char) := do
  let (negative, cs) :=
    match cs with
    | '-' :: rest => (true, rest)
    | cs => (false, cs)
  let (whole, cs) ← readWhole cs
  let (fraction, cs) ← readFraction cs
  let (exponent, cs) ← readExponent cs
  some (⟨negative, whole, fraction, exponent⟩, cs)

/-- Appends digits to a significand while it fits in 64 bits, and tells how many digits were left
over. -/
def absorb (significand : Nat) : List Char → Nat × Nat
  | [] => (significand, 0)
  | c :: cs =>
      let next := 10 * significand + Decimal.digitValue c
      if next < UInt64.size then absorb next cs else (significand, cs.length + 1)

/-- Divides by a power of ten, in steps of at most `10 ^ 308`. -/
def divideByPower (x : Float) (power : Nat) : Float :=
  if power ≤ 308 then x / Float.ofScientific 1 false power
  else if x == 0.0 then x
  else divideByPower (x / 1e308) (power - 308)
termination_by power

/-- A significand scaled by a power of ten, unless the result is infinite. -/
def scale? (significand : Nat) (power : Int) : Option Float :=
  let x := significand.toUInt64.toFloat
  match power with
  | .ofNat p =>
      if p ≤ 308 then
        let y := x * Float.ofScientific 1 false p
        if y.isInf then none else some y
      else if significand = 0 then some x
      else none
  | .negSucc p => some (divideByPower x (p + 1))

/-- A double with a sign. -/
def withSign (negative : Bool) (x : Float) : Float :=
  if negative then -x else x

/-- A number without fraction and exponent whose digits fit in an unsigned word. -/
def ofWord (negative : Bool) (n : Nat) : Json :=
  if negative then
    if 0 < n && n ≤ UInt64.size / 2 then .int (Int64.ofInt (-n)) else .real (-n.toUInt64.toFloat)
  else if n < UInt64.size / 2 then .int (Int64.ofNat n)
  else .real n.toUInt64.toFloat

/-- The value of a number. -/
def toJson? (l : Literal) : Option Json :=
  let (significand, dropped) := absorb 0 l.whole
  let real (significand : Nat) (power : Int) : Option Json :=
    (scale? significand power).map fun x => .real (withSign l.negative x)
  if l.fraction.isEmpty then
    match l.exponent with
    | none => if dropped = 0 then some (ofWord l.negative significand) else real significand dropped
    | some e => real significand (dropped + e)
  else
    let (significand, left) := absorb significand l.fraction
    let places : Int := l.fraction.length - left
    real significand (dropped - places + l.exponent.getD 0)

end Literal

end Fiction.Json
