/-!
# Fiction.Decimal.Natural

Decimal digits of natural numbers, in both directions.

* `digits` writes a number, most significant digit first and without leading zeros.
* `ofDigits` reads a run of digits; leading zeros are allowed.
* `ofDigits_digits` says that reading undoes writing.
-/

namespace Fiction.Decimal

/-- The character of a digit below ten. -/
def digitChar (d : Nat) : Char :=
  Char.ofNat (48 + d)

/-- The value of a digit character. -/
def digitValue (c : Char) : Nat :=
  c.toNat - 48

/-- The decimal digits of a number, most significant first. -/
def digits (n : Nat) : List Char :=
  if n < 10 then [digitChar n] else digits (n / 10) ++ [digitChar (n % 10)]

/-- The number a run of decimal digits denotes. -/
def ofDigits (cs : List Char) : Nat :=
  cs.foldl (fun n c => 10 * n + digitValue c) 0

/-- The decimal text of an integer. -/
def ofInt : Int → String
  | .ofNat n => String.ofList (digits n)
  | .negSucc n => "-" ++ String.ofList (digits (n + 1))

/-- The decimal text of a natural number. -/
def ofNat (n : Nat) : String :=
  String.ofList (digits n)

theorem digitValue_digitChar {d : Nat} (h : d < 10) : digitValue (digitChar d) = d := by
  have : ∀ d : Fin 10, digitValue (digitChar d) = d := by decide
  exact this ⟨d, h⟩

theorem ofDigits_append_singleton (cs : List Char) (c : Char) :
    ofDigits (cs ++ [c]) = 10 * ofDigits cs + digitValue c := by
  simp [ofDigits]

/-- Reading the digits of a number gives the number back. -/
theorem ofDigits_digits (n : Nat) : ofDigits (digits n) = n := by
  induction n using digits.induct with
  | case1 n h => rw [digits]; simp [h, ofDigits, digitValue_digitChar h]
  | case2 n h ih =>
      rw [digits, if_neg h, ofDigits_append_singleton, ih,
        digitValue_digitChar (Nat.mod_lt _ (by decide))]
      omega

end Fiction.Decimal
