import Fiction.Decimal.Shortest

/-!
# Fiction.Decimal.Layout

How a double is written.

* `plain` is the text a reader of a story sees: the shortest digits without an exponent, and the
  exact integer followed by `.0` when there is no fractional part.
* `exchange` is the text in a data file: the shortest digits, with an exponent where the
  positional form would be long. Only finite doubles have one.
* `ofDecimal` reads a decimal, correctly rounded.
-/

namespace Fiction.Decimal

/-- The digits of a decimal with a point `places` digits from the right. -/
def withPoint (ds : List Char) (places : Nat) : List Char :=
  let padded := List.replicate (places + 1 - ds.length) '0' ++ ds
  let cut := padded.length - places
  padded.take cut ++ '.' :: padded.drop cut

/-- The positional form of a decimal; a decimal without a fractional part ends in `.0`. -/
def Scaled.positional (s : Scaled) : List Char :=
  let ds := digits s.coefficient
  match s.exponent with
  | .ofNat e => ds ++ List.replicate e '0' ++ ['.', '0']
  | .negSucc e => withPoint ds (e + 1)

/-- The form with one digit before the point and an exponent with its sign. -/
def Scaled.scientific (s : Scaled) : List Char :=
  let ds := digits s.coefficient
  let lead := s.exponent + ((ds.length : Int) - 1)
  let mantissa := ds.take 1 ++ (if ds.length > 1 then '.' :: ds.drop 1 else [])
  let sign := if lead < 0 then '-' else '+'
  mantissa ++ 'e' :: sign :: digits lead.natAbs

/-- The minus sign of a negative number. -/
def signed (negative : Bool) (ds : List Char) : String :=
  String.ofList (if negative then '-' :: ds else ds)

/-- A double as running text: never with an exponent. -/
def plain (x : Float) : String :=
  match Double.ofFloat x with
  | .nan => "NaN"
  | .infinite negative => signed negative ['i', 'n', 'f']
  | .finite negative m =>
      if m.isIntegral then signed negative (digits m.floor ++ ['.', '0'])
      else signed negative (shortest m).positional

/-- The decimal exponents that a data file writes positionally. -/
def positionalRange (lead : Int) : Bool :=
  -5 ≤ lead && lead ≤ 15

/-- A finite double as a number in a data file. -/
def exchange? (x : Float) : Option String :=
  match Double.ofFloat x with
  | .nan => none
  | .infinite _ => none
  | .finite negative m =>
      if m.significand == 0 then some (signed negative ['0', '.', '0'])
      else
        let s := shortest m
        let lead := s.exponent + (((digits s.coefficient).length : Int) - 1)
        some (signed negative (if positionalRange lead then s.positional else s.scientific))

/-- The double nearest to `coefficient * 10 ^ exponent`. What lies far outside of the range of
doubles is settled by the number of digits. -/
def ofDecimal (coefficient : Nat) (exponent : Int) : Float :=
  let lead := exponent + ((digits coefficient).length : Int)
  if coefficient = 0 || decide (lead < -400) then 0.0
  else if lead > 400 then 1.0 / 0.0
  else
    match exponent with
    | .ofNat e => Float.ofScientific coefficient false e
    | .negSucc e => Float.ofScientific coefficient true (e + 1)

end Fiction.Decimal
