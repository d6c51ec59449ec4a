import Fiction.Operator.Apply
import Fiction.Proofs.Value.Order

/-!
# Fiction.Proofs.Operator.Order

**Comparisons of values without reals follow a partial order.** `atMost_iff` and `less_iff` say what `<=` and `<` tell
of the order of two values, and `order_lawful` is the main statement: it puts the laws of
`Fiction.Proofs.Value.Order` together.
-/

namespace Fiction.Operator

variable {a b c : Value}

theorem order_eq_true_iff {operation : String} {accept : Ordering → Bool} :
    order operation a b accept = .ok (.bool true) ↔ ∃ o, a.compare? b = some o ∧ accept o = true := by
  rw [order]
  cases a.compare? b with
  | none => simp [mismatch]
  | some o => simp

theorem atMost_iff :
    atMost.apply a b = .ok (.bool true) ↔ ∃ o, a.compare? b = some o ∧ o ≠ .gt := by
  rw [apply, order_eq_true_iff]
  simp

theorem less_iff : less.apply a b = .ok (.bool true) ↔ a.compare? b = some .lt := by
  rw [apply, order_eq_true_iff]
  simp

/-- **The order of values without reals is a partial order that goes with equality.** It is turned round when the
values are, and values without an order have none either way. Values on a level are equal, and equal ones are on a
level if they are made of integers, texts, booleans and lists only. Two steps up are one, which is strict if one of
them is. -/
theorem order_lawful {a b c : Value} (ha : a.RealFree) (hb : b.RealFree) (hc : c.RealFree) :
    b.compare? a = (a.compare? b).map Ordering.swap ∧
    (a.compare? b = some .eq → equal.apply a b = .ok (.bool true)) ∧
    (a.Orderable → equal.apply a b = .ok (.bool true) → a.compare? b = some .eq) ∧
    (atMost.apply a b = .ok (.bool true) → atMost.apply b c = .ok (.bool true) →
      (a.compare? c).isSome ∧ atMost.apply a c = .ok (.bool true) ∧
      (less.apply a b = .ok (.bool true) ∨ less.apply b c = .ok (.bool true) →
        less.apply a c = .ok (.bool true))) := by
  refine ⟨Value.compare?_swap ha hb, fun level => ?_, fun hord same => ?_, fun hab hbc => ?_⟩
  · rw [apply, Value.beq_of_compare? ha hb level]
  · rw [apply, Except.ok.injEq, Value.bool.injEq] at same
    exact Value.compare?_of_beq hord hb same
  · obtain ⟨o, first, ho⟩ := atMost_iff.mp hab
    obtain ⟨o', second, ho'⟩ := atMost_iff.mp hbc
    have both := Value.compare?_trans ha hb hc first second ho ho'
    refine ⟨by rw [both]; rfl, atMost_iff.mpr ⟨_, both, then_ne_gt ho ho'⟩, fun strict => ?_⟩
    rw [less_iff, less_iff, first, second, Option.some.injEq, Option.some.injEq] at strict
    rw [less_iff, both, then_eq_lt_of_strict ho strict]

/-- Null and a text have no order, but the elements before them decide. -/
theorem lists_order_lawful :
    atMost.apply (.list [.int 1]) (.list [.int 1, .null]) = .ok (.bool true) ∧
    less.apply (.list [.int 1]) (.list [.int 2, .text "x"]) = .ok (.bool true) := by
  have lawful := order_lawful (a := .list [.int 1]) (b := .list [.int 1, .null])
    (c := .list [.int 2, .text "x"]) (by decide) (by decide) (by decide)
  obtain ⟨-, -, -, up⟩ := lawful
  have first : atMost.apply (.list [.int 1]) (.list [.int 1, .null]) = .ok (.bool true) := rfl
  have second : less.apply (.list [.int 1, .null]) (.list [.int 2, .text "x"]) = .ok (.bool true) := rfl
  exact ⟨first, (up first rfl).2.2 (.inr second)⟩

end Fiction.Operator
