import Fiction.Proofs.Operator.Arithmetic

/-!
# Fiction.Proofs.Operator.Integral

**Exact divisions and powers of integers stay integers**, with two exceptions at the edges of the range.

* `Integer.not_fits_pow` and `Integer.fits_pow`: only the bases 0, 1 and -1 have powers that fit whatever the
  exponent, and `Integer.pow?_eq_fit?` says that a power is computed exactly up to the greatest exponent that
  is tried.
* `Operator.divide_of_dvd` and `Operator.divide_least`: an exact division gives the quotient, but the least
  integer divided by -1 is taken for one that is not exact and gives a real.
* `Operator.isExact_divide_iff` and `Operator.isExact_raise_iff` say for which operands the results are exact,
  and `Operator.exact_division_and_power` is the main statement.
-/

namespace Fiction

namespace Integer

variable {a b : Int64}

/-! ## Powers -/

/-- A base whose powers do not grow. -/
def Steady (a : Int64) : Prop :=
  a = 0 ∨ a = 1 ∨ a = -1

instance (a : Int64) : Decidable (Steady a) :=
  inferInstanceAs (Decidable (_ ∨ _))

theorem steady_iff : Steady a ↔ a.toInt.natAbs ≤ 1 := by
  unfold Steady
  rw [← Int64.toInt_inj, ← Int64.toInt_inj, ← Int64.toInt_inj, Int64.toInt_zero, Int64.toInt_one]
  have minusOne : (-1 : Int64).toInt = -1 := by decide
  rw [minusOne]
  omega

theorem fits_pow (h : Steady a) (n : Nat) : Fits (a.toInt ^ n) := by
  have small : (a.toInt ^ n).natAbs ≤ 1 := by
    rw [Int.natAbs_pow]
    calc a.toInt.natAbs ^ n ≤ 1 ^ n := Nat.pow_le_pow_left (steady_iff.mp h) n
      _ = 1 := Nat.one_pow n
  unfold Fits least greatest
  omega

/-- All other bases outgrow 64 bits before the 64th power. -/
theorem not_fits_pow (h : ¬ Steady a) {n : Nat} (hn : 64 ≤ n) : ¬ Fits (a.toInt ^ n) := by
  rw [steady_iff, Nat.not_le] at h
  have large : 2 ^ 64 ≤ (a.toInt ^ n).natAbs := by
    rw [Int.natAbs_pow]
    calc 2 ^ 64 ≤ 2 ^ n := Nat.pow_le_pow_right (by decide) hn
      _ ≤ a.toInt.natAbs ^ n := Nat.pow_le_pow_left h n
  unfold Fits least greatest
  omega

/-- The powers of 0, 1 and -1 are known without computing them. -/
theorem pow?_of_steady (h : Steady a) {n : Nat} (hn : n ≤ exponentLimit) :
    pow? a n = fit? (a.toInt ^ n) := by
  symm
  rw [pow?, if_neg (Nat.not_lt.mpr hn)]
  rcases h with rfl | rfl | rfl
  · rw [if_pos (by decide), fit?_eq_some_iff, Int64.toInt_zero]
    split
    · next zero => rw [zero, pow_zero, Int64.toInt_one]
    · next positive => rw [zero_pow positive, Int64.toInt_zero]
  · rw [if_pos (by decide), ite_self, fit?_eq_some_iff, Int64.toInt_one, one_pow]
  · have minusOne : (-1 : Int64).toInt = -1 := by decide
    rw [if_neg (by decide), if_pos (by decide), fit?_eq_some_iff, minusOne]
    split
    · next even => rw [Even.neg_one_pow (Nat.even_iff.mpr even), Int64.toInt_one]
    · next odd => rw [Odd.neg_one_pow (Nat.not_even_iff_odd.mp (mt Nat.even_iff.mp odd)), minusOne]

/-- **Powers are exact** up to the greatest exponent that is tried. -/
theorem pow?_eq_fit? (a : Int64) {n : Nat} (hn : n ≤ exponentLimit) :
    pow? a n = fit? (a.toInt ^ n) := by
  by_cases steady : Steady a
  · exact pow?_of_steady steady hn
  · obtain ⟨zero, one, minusOne⟩ : a ≠ 0 ∧ a ≠ 1 ∧ a ≠ -1 := by
      simpa [Steady] using steady
    rw [pow?, if_neg (Nat.not_lt.mpr hn), if_neg (by simp [zero, one]), if_neg (by simpa using minusOne)]
    split
    · next high => rw [fit?_of_not_fits (not_fits_pow steady high)]
    · rfl

/-! ## Exact quotients -/

/-- Where the division is exact, one pair apart, the quotient exists and the remainder is found to be zero. -/
theorem quotient?_of_dvd (hb : b ≠ 0) (h : b.toInt ∣ a.toInt)
    (apart : ¬ (a.toInt = least ∧ b.toInt = -1)) :
    remainder? a b = some 0 ∧ quotient? a b = fit? (a.toInt / b.toInt) := by
  obtain ⟨t, u, steps⟩ := exists_truncated hb apart
  have zero : u = 0 := by
    rw [← toInt_eq_zero_iff, steps.remainder_exact, Int.tmod_eq_zero_of_dvd h]
  exact ⟨zero ▸ steps.remainder, by rw [quotient?_eq hb, Int.tdiv_eq_ediv_of_dvd h]⟩

end Integer

/-! ## Operators -/

namespace Operator

variable {a b : Int64}

theorem not_isExact_real {operation : String} {exact : Int} {x : Float} :
    ¬ IsExact operation exact (.ok (.real x)) := by
  intro h
  by_cases fits : Integer.Fits exact
  · obtain ⟨n, -, found⟩ := h.value fits
    cases found
  · cases h.overflow fits

/-- An overflow is exact if and only if the result does not fit. -/
theorem isExact_overflow_iff {operation : String} {exact : Int} :
    IsExact operation exact (.error (.invalidValue (.overflow operation))) ↔ ¬ Integer.Fits exact := by
  constructor
  · intro h fits
    obtain ⟨n, -, found⟩ := h.value fits
    cases found
  · exact fun h => ⟨fun fits => absurd fits h, fun _ => rfl⟩

theorem divide_of_dvd (hb : b ≠ 0) (h : b.toInt ∣ a.toInt)
    (apart : ¬ (a.toInt = Integer.least ∧ b.toInt = -1)) :
    divide (.int a) (.int b) = fitted "/" (Integer.fit? (a.toInt / b.toInt)) := by
  obtain ⟨remainder, quotient⟩ := Integer.quotient?_of_dvd hb h apart
  rw [divide, if_neg (by simpa using hb), remainder, if_pos (by decide), quotient]

/-- The least integer has no remainder by -1, so the division is not seen to be exact. It is made on reals. -/
theorem divide_least (ha : a.toInt = Integer.least) (hb : b.toInt = -1) :
    divide (.int a) (.int b) = .ok (.real 9223372036854775808.0) := by
  obtain rfl : a = -9223372036854775808 := Int64.toInt_inj.mp (by rw [ha]; decide)
  obtain rfl : b = -1 := Int64.toInt_inj.mp (by rw [hb]; decide)
  have divisor : (Value.nearestReal (-1) == 0.0) = false := by decide +kernel
  have quotient : Value.nearestReal (-9223372036854775808) / Value.nearestReal (-1) =
      9223372036854775808.0 := by decide +kernel
  have none : Integer.remainder? (-9223372036854775808) (-1) = none := by decide
  rw [divide, if_neg (by decide), none, if_neg (by decide), divideReals, onReals]
  simp only [Value.asReal?, divisor, quotient, Bool.false_eq_true, if_false]

theorem isExact_divide_iff (hb : b ≠ 0) (h : b.toInt ∣ a.toInt) :
    IsExact "/" (a.toInt / b.toInt) (divide (.int a) (.int b)) ↔
      ¬ (a.toInt = Integer.least ∧ b.toInt = -1) := by
  constructor
  · rintro exact ⟨least, minusOne⟩
    rw [divide_least least minusOne] at exact
    exact not_isExact_real exact
  · intro apart
    rw [divide_of_dvd hb h apart]
    exact isExact_fitted _ _

theorem raise_of_nonneg (hb : 0 ≤ b.toInt) :
    raise (.int a) (.int b) = fitted "**" (Integer.pow? a b.toInt.toNat) := by
  rw [raise, if_neg (Int.not_lt.mpr hb)]

/-- Higher exponents are not tried. -/
theorem raise_of_high (h : Integer.exponentLimit < b.toInt) :
    raise (.int a) (.int b) = .error (.invalidValue (.overflow "**")) := by
  have high : b.toInt.toNat > Integer.exponentLimit := by omega
  rw [raise_of_nonneg (by omega), Integer.pow?, if_pos high, fitted]

theorem isExact_raise_iff (hb : 0 ≤ b.toInt) :
    IsExact "**" (a.toInt ^ b.toInt.toNat) (raise (.int a) (.int b)) ↔
      ¬ (Integer.exponentLimit < b.toInt ∧ Integer.Steady a) := by
  by_cases high : Integer.exponentLimit < b.toInt
  · rw [raise_of_high high, isExact_overflow_iff, not_iff_not]
    have beyond : 64 ≤ b.toInt.toNat := by
      unfold Integer.exponentLimit at high
      omega
    constructor
    · exact fun fits => ⟨high, not_not.mp fun growing => Integer.not_fits_pow growing beyond fits⟩
    · exact fun h => Integer.fits_pow h.2 _
  · rw [raise_of_nonneg hb, Integer.pow?_eq_fit? a (by omega)]
    exact iff_of_true (isExact_fitted _ _) fun h => high h.1

/-- **Exact divisions and powers of integers stay integers, with two exceptions.** An exact division gives the
quotient if it fits and an overflow otherwise, for all pairs but one: the least integer divided by -1 gives a
real. A power with an exponent that is not negative is the exact one, or an overflow exactly if that does not
fit, unless the exponent is too high to be tried and the base is 0, 1 or -1: then it is an overflow although
the power fits. -/
theorem exact_division_and_power (a b : Int64) :
    (b ≠ 0 → b.toInt ∣ a.toInt →
      (IsExact "/" (a.toInt / b.toInt) (slash.apply (.int a) (.int b)) ↔
        ¬ (a.toInt = Integer.least ∧ b.toInt = -1))) ∧
    (a.toInt = Integer.least → b.toInt = -1 →
      slash.apply (.int a) (.int b) = .ok (.real 9223372036854775808.0)) ∧
    (0 ≤ b.toInt →
      (IsExact "**" (a.toInt ^ b.toInt.toNat) (power.apply (.int a) (.int b)) ↔
        ¬ (Integer.exponentLimit < b.toInt ∧ Integer.Steady a))) ∧
    (Integer.exponentLimit < b.toInt →
      power.apply (.int a) (.int b) = .error (.invalidValue (.overflow "**"))) :=
  ⟨isExact_divide_iff, divide_least, isExact_raise_iff, raise_of_high⟩

/-- The opposite of the least integer does not fit, and -1 divides it; the first power of 1 that is refused
fits. -/
theorem least_quotient_and_high_power_inexact :
    ¬ (∀ a b : Int64, b ≠ 0 → b.toInt ∣ a.toInt →
        IsExact "/" (a.toInt / b.toInt) (slash.apply (.int a) (.int b))) ∧
    slash.apply (.int (-9223372036854775808)) (.int (-1)) = .ok (.real 9223372036854775808.0) ∧
    ¬ (∀ a b : Int64, 0 ≤ b.toInt →
        IsExact "**" (a.toInt ^ b.toInt.toNat) (power.apply (.int a) (.int b))) ∧
    power.apply (.int 1) (.int 4294967296) = .error (.invalidValue (.overflow "**")) := by
  refine ⟨fun exact => ?_, ?_, fun exact => ?_, ?_⟩
  · have exact := exact (-9223372036854775808) (-1) (by decide) (by decide)
    exact (isExact_divide_iff (by decide) (by decide)).mp exact ⟨by decide, by decide⟩
  · exact divide_least (a := -9223372036854775808) (b := -1) (by decide) (by decide)
  · have exact := exact 1 4294967296 (by decide)
    exact (isExact_raise_iff (by decide)).mp exact ⟨by decide, by decide⟩
  · exact raise_of_high (a := 1) (b := 4294967296) (by decide)

end Operator

end Fiction
