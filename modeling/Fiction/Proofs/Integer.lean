import Fiction.Operator.Integer

/-!
# Fiction.Proofs.Integer

Integers of 64 bits and the exact integers they stand for.

`fit?_eq_some_iff`: an integer is the result of an operation if and only if it has the exact value. So
what is known of exact integers carries over wherever results are known to fit. `Fits` says of an exact
integer that it is a result.
-/

namespace Fiction.Integer

theorem fit?_toInt (n : Int64) : fit? n.toInt = some n := by
  have low := Int64.le_toInt n
  have high := Int64.toInt_lt n
  unfold fit? least greatest
  rw [if_pos (by omega), Int64.ofInt_toInt]

/-- A result has the exact value. -/
theorem fit?_eq_some_iff {exact : Int} {n : Int64} : fit? exact = some n ↔ n.toInt = exact := by
  constructor
  · intro h
    unfold fit? least greatest at h
    split at h
    · next range =>
        cases h
        exact Int64.toInt_ofInt_of_le (by omega) (by omega)
    · cases h
  · intro h
    rw [← h, fit?_toInt]

/-- An exact integer that fits into 64 bits. -/
def Fits (exact : Int) : Prop :=
  least ≤ exact ∧ exact ≤ greatest

instance (exact : Int) : Decidable (Fits exact) :=
  inferInstanceAs (Decidable (_ ∧ _))

theorem fits_toInt (n : Int64) : Fits n.toInt := by
  have low := Int64.le_toInt n
  have high := Int64.toInt_lt n
  unfold Fits least greatest
  omega

theorem exists_of_fits {exact : Int} (h : Fits exact) :
    ∃ n : Int64, n.toInt = exact ∧ fit? exact = some n := by
  have found : fit? exact = some (Int64.ofInt exact) := if_pos h
  exact ⟨_, fit?_eq_some_iff.mp found, found⟩

theorem fit?_of_not_fits {exact : Int} (h : ¬ Fits exact) : fit? exact = none :=
  if_neg h

theorem toInt_eq_zero_iff {n : Int64} : n.toInt = 0 ↔ n = 0 := by
  rw [← Int64.toInt_inj, Int64.toInt_zero]

theorem neg?_eq_some_iff {n m : Int64} : neg? n = some m ↔ m.toInt = -n.toInt :=
  fit?_eq_some_iff

theorem add?_eq_some_iff {a b c : Int64} : add? a b = some c ↔ c.toInt = a.toInt + b.toInt :=
  fit?_eq_some_iff

theorem neg?_of_neg? {n m : Int64} (h : neg? n = some m) : neg? m = some n := by
  rw [neg?_eq_some_iff] at h ⊢
  omega

/-- What was added can be taken away again, if it has an opposite. -/
theorem add?_neg_of_add? {n d m : Int64} (hd : d.toInt ≠ least) (h : add? n d = some m) :
    add? m (-d) = some n := by
  have low := Int64.le_toInt d
  have high := Int64.toInt_lt d
  unfold least at hd
  have opposite : (-d).toInt = -d.toInt := by
    rw [Int64.toInt_neg, Int.bmod_eq_of_le (by omega) (by omega)]
  rw [add?_eq_some_iff] at h ⊢
  rw [opposite, h]
  omega

/-- All integers but the least have an opposite. -/
theorem isSome_neg?_iff (n : Int64) : (neg? n).isSome = true ↔ n.toInt ≠ least := by
  have low := Int64.le_toInt n
  have high := Int64.toInt_lt n
  unfold neg? fit? least greatest
  split
  · simp only [Option.isSome_some, true_iff]
    omega
  · simp only [Option.isSome_none, Bool.false_eq_true, false_iff]
    omega

end Fiction.Integer
