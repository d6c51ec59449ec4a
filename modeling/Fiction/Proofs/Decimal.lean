import Fiction.Decimal.Natural
import Fiction.Text.Blank

/-!
# Fiction.Proofs.Decimal

What the decimal digits of a number look like: there is at least one, all of them are digits, and
only zero starts with a zero. A run of digits ends where none follows.
-/

namespace Fiction.Decimal

theorem isDigit_digitChar {d : Nat} (h : d < 10) : (digitChar d).isDigit = true := by
  have all : ∀ d : Fin 10, (digitChar d).isDigit = true := by decide
  exact all ⟨d, h⟩

theorem digits_ne_nil (n : Nat) : digits n ≠ [] := by
  rw [digits]
  split
  · exact List.cons_ne_nil _ _
  · simp

theorem isDigit_of_mem_digits {n : Nat} {c : Char} (h : c ∈ digits n) : c.isDigit = true := by
  induction n using digits.induct with
  | case1 n small =>
      rw [digits, if_pos small, List.mem_singleton] at h
      rw [h]
      exact isDigit_digitChar small
  | case2 n large ih =>
      rw [digits, if_neg large, List.mem_append, List.mem_singleton] at h
      rcases h with h | h
      · exact ih h
      · rw [h]
        exact isDigit_digitChar (Nat.mod_lt _ (by decide))

theorem takeWhile_isDigit_append {ds : List Char} (h : ∀ c ∈ ds, c.isDigit = true) (rest : List Char)
    (hrest : ∀ c ∈ rest.head?, c.isDigit = false) :
    (ds ++ rest).takeWhile Char.isDigit = ds ∧ (ds ++ rest).dropWhile Char.isDigit = rest := by
  induction ds with
  | nil =>
      cases rest with
      | nil => exact ⟨rfl, rfl⟩
      | cons c rest => simp [hrest c rfl]
  | cons d ds ih =>
      obtain ⟨first, others⟩ := List.forall_mem_cons.mp h
      simp [first, ih others]

theorem isBlank_of_isDigit {c : Char} (h : c.isDigit = true) : Text.isBlank c = false := by
  obtain ⟨low, high⟩ : 48 ≤ c.val ∧ c.val ≤ 57 := by simpa [Char.isDigit] using h
  have low : 48 ≤ c.toNat := UInt32.le_iff_toNat_le.mp low
  have high : c.toNat ≤ 57 := UInt32.le_iff_toNat_le.mp high
  simp [Text.isBlank]
  omega

/-- Numbers other than zero start with another digit. -/
theorem head?_digits {n : Nat} (h : n ≠ 0) : (digits n).head? ≠ some '0' := by
  induction n using digits.induct with
  | case1 n small =>
      have first : ∀ d : Fin 10, d ≠ 0 → digitChar d ≠ '0' := by decide
      rw [digits, if_pos small, List.head?_cons]
      exact fun zero => first ⟨n, small⟩ (by simpa [Fin.ext_iff] using h) (Option.some.inj zero)
  | case2 n large ih =>
      obtain ⟨first, rest, hfirst⟩ := List.exists_cons_of_ne_nil (digits_ne_nil (n / 10))
      have front := ih (by omega)
      rw [hfirst] at front
      rw [digits, if_neg large, hfirst]
      exact front

end Fiction.Decimal
