import Fiction.Operator.Apply
import Fiction.Proofs.Integer
import Mathlib.Data.Rat.Floor

/-!
# Fiction.Proofs.Operator.Arithmetic

**Arithmetic on integers is exact, and division rounds down.** Sums, differences, products and opposites are
the exact integers, or there is an overflow. Quotient and remainder are found by division toward zero and then
corrected by one.

* `Integer.IsFloorDivision` says what quotient and remainder have to be, and `IsFloorDivision.floor` that the
  quotient is then the floor of the fraction.
* `Integer.isFloorDivision_of_truncation` is the correction.
* `Integer.fits_tdiv_iff` and `Integer.fits_correction`: one pair of integers apart, no step overflows.
* `Operator.integer_arithmetic_exact` is the main statement.
-/

namespace Fiction

namespace Integer

/-! ## Rounding down -/

/-- Quotient and remainder of a division that rounds down. -/
structure IsFloorDivision (x y q r : Int) : Prop where
  whole : q * y + r = x
  between : (0 ≤ r ∧ r < y) ∨ (y < r ∧ r ≤ 0)

/-- The quotient is the floor of the fraction. -/
theorem IsFloorDivision.floor {x y q r : Int} (h : IsFloorDivision x y q r) :
    ⌊(x : ℚ) / y⌋ = q := by
  have whole : (q : ℚ) * y + r = x := by exact_mod_cast h.whole
  rw [Int.floor_eq_iff]
  rcases h.between with ⟨low, high⟩ | ⟨low, high⟩
  · have positive : (0 : ℚ) < y := by exact_mod_cast lt_of_le_of_lt low high
    have low : (0 : ℚ) ≤ r := by exact_mod_cast low
    have high : (r : ℚ) < y := by exact_mod_cast high
    rw [le_div_iff₀ positive, div_lt_iff₀ positive]
    constructor <;> linarith
  · have negative : (y : ℚ) < 0 := by exact_mod_cast lt_of_lt_of_le low high
    have low : (y : ℚ) < r := by exact_mod_cast low
    have high : (r : ℚ) ≤ 0 := by exact_mod_cast high
    rw [le_div_iff_of_neg negative, div_lt_iff_of_neg negative]
    constructor <;> linarith

/-- The remainder is zero or has the sign of the divisor, and it is smaller. -/
theorem IsFloorDivision.remainder {x y q r : Int} (h : IsFloorDivision x y q r) :
    (r = 0 ∨ r.sign = y.sign) ∧ |r| < |y| := by
  rcases h.between with ⟨low, high⟩ | ⟨low, high⟩
  · rw [abs_of_nonneg low, abs_of_pos (by omega : 0 < y)]
    refine ⟨?_, high⟩
    rcases low.eq_or_lt with zero | positive
    · exact .inl zero.symm
    · rw [Int.sign_eq_one_of_pos positive, Int.sign_eq_one_of_pos (by omega)]
      exact .inr rfl
  · rw [abs_of_nonpos high, abs_of_neg (by omega : y < 0)]
    refine ⟨?_, by omega⟩
    rcases high.eq_or_lt with zero | negative
    · exact .inl zero
    · rw [Int.sign_eq_neg_one_of_neg negative, Int.sign_eq_neg_one_of_neg (by omega)]
      exact .inr rfl

/-- The remainder of a division toward zero is smaller than the divisor and lies on the side of the
dividend. -/
theorem tmod_bounds {x y : Int} (hy : y ≠ 0) :
    (x.tmod y).natAbs < y.natAbs ∧ (0 ≤ x → 0 ≤ x.tmod y) ∧ (x ≤ 0 → x.tmod y ≤ 0) := by
  refine ⟨?_, Int.tmod_nonneg y, fun h => ?_⟩
  · rw [Int.natAbs_tmod]
    exact Nat.mod_lt _ (Int.natAbs_pos.mpr hy)
  · have opposite := Int.tmod_nonneg y (Int.neg_nonneg_of_nonpos h)
    rw [Int.neg_tmod] at opposite
    omega

/-- **The correction of a division toward zero.** It is needed when the division is not exact and the signs
differ. Then the remainder, which has the sign of the dividend, gets to the side of the divisor. -/
theorem isFloorDivision_of_truncation {x y : Int} (hy : y ≠ 0) :
    (x.tmod y ≠ 0 ∧ (x < 0 ↔ ¬ y < 0) → IsFloorDivision x y (x.tdiv y - 1) (x.tmod y + y)) ∧
      (¬ (x.tmod y ≠ 0 ∧ (x < 0 ↔ ¬ y < 0)) → IsFloorDivision x y (x.tdiv y) (x.tmod y)) := by
  have whole := Int.tdiv_mul_add_tmod x y
  obtain ⟨small, low, high⟩ := tmod_bounds (x := x) hy
  constructor
  · rintro ⟨inexact, differ⟩
    refine ⟨?_, by omega⟩
    rw [Int.sub_mul]
    omega
  · intro agree
    exact ⟨whole, by omega⟩

/-! ## What fits -/

/-- A divisor beyond 1 and -1 leaves half of the dividend at most. -/
theorem natAbs_tdiv_le_half (x : Int) {y : Int} (hy : 1 < y.natAbs) :
    (x.tdiv y).natAbs ≤ x.natAbs / 2 := by
  rw [Int.natAbs_tdiv]
  exact Nat.div_le_div_left hy (by decide)

/-- The quotient toward zero is too great for the least integer and -1 only. -/
theorem fits_tdiv_iff (a : Int64) {b : Int64} (hb : b ≠ 0) :
    Fits (a.toInt.tdiv b.toInt) ↔ ¬ (a.toInt = least ∧ b.toInt = -1) := by
  obtain ⟨low, high⟩ := fits_toInt a
  have divisor : b.toInt ≠ 0 := mt toInt_eq_zero_iff.mp hb
  unfold Fits
  unfold least greatest at *
  by_cases unit : b.toInt.natAbs = 1
  · rcases (by omega : b.toInt = 1 ∨ b.toInt = -1) with one | minusOne
    · rw [one, Int.tdiv_one]
      omega
    · rw [minusOne, Int.tdiv_neg, Int.tdiv_one]
      omega
  · have half := natAbs_tdiv_le_half a.toInt (y := b.toInt) (by omega)
    omega

theorem fits_tmod (a : Int64) {b : Int64} (hb : b ≠ 0) : Fits (a.toInt.tmod b.toInt) := by
  obtain ⟨low, high⟩ := fits_toInt b
  obtain ⟨small, -, -⟩ := tmod_bounds (x := a.toInt) (mt toInt_eq_zero_iff.mp hb)
  unfold Fits
  unfold least greatest at *
  omega

/-- **The correction does not overflow.** A division that is not exact has a divisor beyond 1 and -1, so the
quotient is at most half of the range; and remainder and divisor lie on different sides of zero. -/
theorem fits_correction {a b : Int64} (hb : b ≠ 0) (inexact : a.toInt.tmod b.toInt ≠ 0) :
    Fits (a.toInt.tdiv b.toInt - 1) ∧
      ((a.toInt.tmod b.toInt < 0 ↔ ¬ b.toInt < 0) → Fits (a.toInt.tmod b.toInt + b.toInt)) := by
  obtain ⟨low, high⟩ := fits_toInt a
  obtain ⟨lowest, highest⟩ := fits_toInt b
  obtain ⟨small, -, -⟩ := tmod_bounds (x := a.toInt) (mt toInt_eq_zero_iff.mp hb)
  have half := natAbs_tdiv_le_half a.toInt (y := b.toInt) (by omega)
  unfold Fits
  unfold least greatest at *
  omega

/-! ## Quotient and remainder -/

theorem signsDiffer_iff {a b : Int64} :
    signsDiffer a b = true ↔ (a.toInt < 0 ↔ ¬ b.toInt < 0) := by
  unfold signsDiffer
  by_cases ha : a.toInt < 0 <;> by_cases hb : b.toInt < 0 <;> simp [ha, hb]

/-- The steps of a division: quotient and remainder toward zero exist, and the correction that they may need
fits. -/
structure Truncated (a b t u : Int64) : Prop where
  quotient : quotient? a b = some t
  remainder : remainder? a b = some u
  quotient_exact : t.toInt = a.toInt.tdiv b.toInt
  remainder_exact : u.toInt = a.toInt.tmod b.toInt
  lowered : u ≠ 0 → Fits (t.toInt - 1)
  raised : u ≠ 0 → signsDiffer u b = true → Fits (u.toInt + b.toInt)

theorem quotient?_eq {a b : Int64} (hb : b ≠ 0) : quotient? a b = fit? (a.toInt.tdiv b.toInt) := by
  rw [quotient?, if_neg (by simpa using hb)]

/-- The least integer has no quotient by -1. -/
theorem quotient?_least {a b : Int64} (ha : a.toInt = least) (hb : b.toInt = -1) :
    quotient? a b = none := by
  have nonzero : b ≠ 0 := by
    rw [ne_eq, ← toInt_eq_zero_iff]
    omega
  rw [quotient?_eq nonzero]
  exact fit?_of_not_fits fun fits => (fits_tdiv_iff a nonzero).mp fits ⟨ha, hb⟩

theorem exists_truncated {a b : Int64} (hb : b ≠ 0) (h : ¬ (a.toInt = least ∧ b.toInt = -1)) :
    ∃ t u, Truncated a b t u := by
  obtain ⟨t, ht, hquotient⟩ := exists_of_fits ((fits_tdiv_iff a hb).mpr h)
  obtain ⟨u, hu, hremainder⟩ := exists_of_fits (fits_tmod a hb)
  rw [← quotient?_eq hb] at hquotient
  have inexact : u ≠ 0 → a.toInt.tmod b.toInt ≠ 0 := by
    rw [← hu, ne_eq, ne_eq, toInt_eq_zero_iff]
    exact id
  refine ⟨t, u, hquotient, ?_, ht, hu, fun some => ?_, fun some differ => ?_⟩
  · rw [remainder?, hquotient]
    exact hremainder
  · rw [ht]
    exact (fits_correction hb (inexact some)).1
  · rw [signsDiffer_iff, hu] at differ
    rw [hu]
    exact (fits_correction hb (inexact some)).2 differ

/-- **Quotient and remainder round down.** -/
theorem exists_floorDivision {a b : Int64} (hb : b ≠ 0) (h : ¬ (a.toInt = least ∧ b.toInt = -1)) :
    ∃ q r, floorDiv? a b = some q ∧ floorMod? a b = some r ∧
      IsFloorDivision a.toInt b.toInt q.toInt r.toInt := by
  obtain ⟨t, u, steps⟩ := exists_truncated hb h
  have divisor : b.toInt ≠ 0 := mt toInt_eq_zero_iff.mp hb
  obtain ⟨corrected, kept⟩ := isFloorDivision_of_truncation (x := a.toInt) divisor
  obtain ⟨-, low, high⟩ := tmod_bounds (x := a.toInt) divisor
  rw [← steps.quotient_exact, ← steps.remainder_exact] at corrected kept
  rw [← steps.remainder_exact] at low high
  -- a remainder that is not zero has the sign of the dividend
  have sides : u ≠ 0 → (signsDiffer u b = true ↔ signsDiffer a b = true) := by
    intro some
    have inexact : u.toInt ≠ 0 := mt toInt_eq_zero_iff.mp some
    rw [signsDiffer_iff, signsDiffer_iff]
    omega
  have division : floorDiv? a b =
      if u != 0 && signsDiffer a b then fit? (t.toInt - 1) else some t := by
    rw [floorDiv?, steps.quotient, steps.remainder]
    rfl
  have modulo : floorMod? a b =
      if u != 0 && signsDiffer u b then fit? (u.toInt + b.toInt) else some u := by
    rw [floorMod?, steps.remainder]
    rfl
  by_cases correction : u ≠ 0 ∧ signsDiffer a b = true
  · obtain ⟨some, differ⟩ := correction
    obtain ⟨q, hq, foundQ⟩ := exists_of_fits (steps.lowered some)
    obtain ⟨r, hr, foundR⟩ := exists_of_fits (steps.raised some ((sides some).mpr differ))
    refine ⟨q, r, ?_, ?_, ?_⟩
    · rw [division, if_pos (by simp [some, differ]), foundQ]
    · rw [modulo, if_pos (by simp [some, (sides some).mpr differ]), foundR]
    · rw [hq, hr]
      exact corrected ⟨mt toInt_eq_zero_iff.mp some, signsDiffer_iff.mp differ⟩
  · refine ⟨t, u, ?_, ?_, kept fun needed => ?_⟩
    · rw [division, if_neg (by simpa using correction)]
    · rw [modulo, if_neg]
      simp only [Bool.and_eq_true, bne_iff_ne, ne_eq, not_and]
      exact fun some differ => correction ⟨some, (sides some).mp differ⟩
    · exact correction ⟨mt toInt_eq_zero_iff.mpr needed.1, signsDiffer_iff.mpr needed.2⟩

end Integer

/-! ## Operators -/

namespace Operator

/-- The outcome of an operation is the exact integer, or an overflow exactly if that does not fit. -/
structure IsExact (operation : String) (exact : Int) (outcome : Outcome Value) : Prop where
  value : Integer.Fits exact → ∃ n : Int64, n.toInt = exact ∧ outcome = .ok (.int n)
  overflow : ¬ Integer.Fits exact → outcome = .error (.invalidValue (.overflow operation))

theorem isExact_fitted (operation : String) (exact : Int) :
    IsExact operation exact (fitted operation (Integer.fit? exact)) := by
  constructor
  · intro h
    obtain ⟨n, hn, found⟩ := Integer.exists_of_fits h
    exact ⟨n, hn, by rw [found, fitted]⟩
  · intro h
    rw [Integer.fit?_of_not_fits h, fitted]

/-- A division that first looks at its divisor reports the divisor zero and no other. -/
theorem divisionByZero_iff {operation : String} {b : Int64} {result : Option Int64} :
    (if b == 0 then .error (.divisionByZero operation) else fitted operation result : Outcome Value) =
      .error (.divisionByZero operation) ↔ b = 0 := by
  by_cases hb : b = 0
  · simp [hb]
  · cases result with
    | none => simp [hb, fitted]
    | some n => simp [hb, fitted]

/-- **Arithmetic on integers is exact, and division rounds down.** Sum, difference, product and opposite are
the exact integers, or overflow exactly if these do not fit. Division by zero is reported exactly for the
divisor zero, and the least integer divided by -1 overflows. For all other pairs the quotient is the floor of
the fraction and the remainder what is left of the dividend; it is zero or has the sign of the divisor, and is
smaller than it. No step on the way there overflows. -/
theorem integer_arithmetic_exact (a b : Int64) :
    IsExact "+" (a.toInt + b.toInt) (plus.apply (.int a) (.int b)) ∧
    IsExact "-" (a.toInt - b.toInt) (minus.apply (.int a) (.int b)) ∧
    IsExact "*" (a.toInt * b.toInt) (times.apply (.int a) (.int b)) ∧
    IsExact "-" (-a.toInt) (Prefix.negate.apply (.int a)) ∧
    (doubleSlash.apply (.int a) (.int b) = .error (.divisionByZero "//") ↔ b = 0) ∧
    (percent.apply (.int a) (.int b) = .error (.divisionByZero "%") ↔ b = 0) ∧
    (a.toInt = Integer.least ∧ b.toInt = -1 →
      doubleSlash.apply (.int a) (.int b) = .error (.invalidValue (.overflow "//")) ∧
        percent.apply (.int a) (.int b) = .error (.invalidValue (.overflow "%"))) ∧
    (b ≠ 0 ∧ ¬ (a.toInt = Integer.least ∧ b.toInt = -1) →
      ∃ q r : Int64, doubleSlash.apply (.int a) (.int b) = .ok (.int q) ∧
        percent.apply (.int a) (.int b) = .ok (.int r) ∧
        q.toInt = ⌊(a.toInt : ℚ) / b.toInt⌋ ∧
        r.toInt = a.toInt - b.toInt * ⌊(a.toInt : ℚ) / b.toInt⌋ ∧
        q.toInt * b.toInt + r.toInt = a.toInt ∧
        (r.toInt = 0 ∨ r.toInt.sign = b.toInt.sign) ∧ |r.toInt| < |b.toInt| ∧
        ∃ t u, Integer.Truncated a b t u) := by
  have divided : doubleSlash.apply (.int a) (.int b) =
      if b == 0 then .error (.divisionByZero "//") else fitted "//" (Integer.floorDiv? a b) := rfl
  have remaining : percent.apply (.int a) (.int b) =
      if b == 0 then .error (.divisionByZero "%") else fitted "%" (Integer.floorMod? a b) := rfl
  refine ⟨isExact_fitted _ _, isExact_fitted _ _, isExact_fitted _ _, isExact_fitted _ _,
    divisionByZero_iff, divisionByZero_iff, ?_, ?_⟩
  · rintro ⟨ha, hb⟩
    have none := Integer.quotient?_least ha hb
    have nonzero : ¬ (b == 0) = true := by
      rw [beq_iff_eq, ← Integer.toInt_eq_zero_iff]
      omega
    rw [divided, remaining, if_neg nonzero, if_neg nonzero, Integer.floorDiv?, Integer.floorMod?,
      Integer.remainder?, none]
    exact ⟨rfl, rfl⟩
  · rintro ⟨hb, h⟩
    obtain ⟨q, r, foundQ, foundR, division⟩ := Integer.exists_floorDivision hb h
    have nonzero : ¬ (b == 0) = true := by simpa using hb
    refine ⟨q, r, ?_, ?_, division.floor.symm, ?_, division.whole, division.remainder.1,
      division.remainder.2, Integer.exists_truncated hb h⟩
    · rw [divided, if_neg nonzero, foundQ, fitted]
    · rw [remaining, if_neg nonzero, foundR, fitted]
    · have whole := division.whole
      rw [division.floor, Int.mul_comm]
      omega

end Operator

end Fiction
