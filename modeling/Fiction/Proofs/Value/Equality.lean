import Fiction.Proofs.Value.Parts
import Mathlib.Data.List.Forall2

/-!
# Fiction.Proofs.Value.Equality

The equality of the language, said of elements and entries.

* `beqList_iff` and `beqEntries_iff`: lists are equal element by element, and the entries of a mapping have equal
  ones under their keys.
* `beq_self`: **a value equals itself**, if no real in it is a NaN.
* `beq_mapping_of_perm`: a mapping equals the same entries in another order.
-/

namespace Fiction.Value

variable {v : Value} {items xs ys : List Value} {m m' : Mapping Value}

theorem beqList_iff :
    beqList xs ys = true ↔ List.Forall₂ (fun x y : Value => (x == y) = true) xs ys := by
  induction xs generalizing ys with
  | nil =>
      cases ys with
      | nil => simp [beqList]
      | cons y ys => simp [beqList]
  | cons x xs ih =>
      cases ys with
      | nil => simp [beqList]
      | cons y ys =>
          rw [beqList, Bool.and_eq_true, List.forall₂_cons, ih]
          rfl

theorem beqEntries_iff :
    beqEntries m m' = true ↔
      ∀ entry ∈ m, ∃ w, Mapping.get? m' entry.1 = some w ∧ (entry.2 == w) = true := by
  induction m with
  | nil => simp [beqEntries]
  | cons entry rest ih =>
      rw [beqEntries, Bool.and_eq_true, List.forall_mem_cons, ih]
      refine and_congr_left fun _ => ?_
      cases Mapping.get? m' entry.1 with
      | none => simp
      | some w => simp only [Option.some.injEq, exists_eq_left']; rfl

/-! ## Values that equal themselves -/

/-- A real that does not equal itself. -/
def isNan : Value → Bool
  | real x => x != x
  | null | bool _ | int _ | text _ | list _ | mapping _ => false

/-- No part of the value is a NaN. -/
def NanFree (v : Value) : Prop :=
  ∀ part ∈ v.parts, part.isNan = false

instance (v : Value) : Decidable v.NanFree :=
  inferInstanceAs (Decidable (∀ part ∈ v.parts, part.isNan = false))

theorem nanFree_list_iff : (list items).NanFree ↔ ∀ v ∈ items, v.NanFree :=
  forall_parts_list.trans ⟨fun h => h.2, fun h => ⟨rfl, h⟩⟩

theorem nanFree_mapping_iff : (mapping m).NanFree ↔ ∀ entry ∈ m, entry.2.NanFree :=
  forall_parts_mapping.trans ⟨fun h => h.2, fun h => ⟨rfl, h⟩⟩

/-- Entries have equal ones in a mapping that holds them all and equals itself value by value. -/
theorem beqEntries_of_subset (hm : Mapping.Distinct m') (h : m ⊆ m')
    (self : ∀ entry ∈ m, (entry.2 == entry.2) = true) : beqEntries m m' = true :=
  beqEntries_iff.mpr fun entry hentry =>
    ⟨entry.2, Mapping.get?_of_mem hm (h hentry), self entry hentry⟩

/-- **A value equals itself**, if no part of it is a NaN. -/
theorem beq_self (hkeys : v.Keyed) (hnan : v.NanFree) : (v == v) = true := by
  induction v with
  | null => rfl
  | bool b => exact beq_self_eq_true b
  | int n => exact beq_self_eq_true n
  | real x =>
      have number := hnan (real x) List.mem_cons_self
      rwa [isNan, bne, Bool.not_eq_false'] at number
  | text s => exact beq_self_eq_true s
  | list items ih =>
      rw [keyed_list_iff] at hkeys
      rw [nanFree_list_iff] at hnan
      exact beqList_iff.mpr (List.forall₂_same.mpr fun v hv => ih v hv (hkeys v hv) (hnan v hv))
  | mapping entries ih =>
      rw [keyed_mapping_iff] at hkeys
      rw [nanFree_mapping_iff] at hnan
      have self (entry : String × Value) (hentry : entry ∈ entries) : (entry.2 == entry.2) = true :=
        ih entry hentry (hkeys.2 entry hentry) (hnan entry hentry)
      have same := beqEntries_of_subset hkeys.1 (List.Subset.refl entries) self
      exact (Bool.and_eq_true _ _).mpr ⟨beq_self_eq_true _, same⟩

/-- **The order of entries does not matter.** -/
theorem beq_mapping_of_perm (h : m.Perm m') (hkeys : (mapping m').Keyed) (hnan : (mapping m').NanFree) :
    (mapping m == mapping m') = true := by
  rw [keyed_mapping_iff] at hkeys
  rw [nanFree_mapping_iff] at hnan
  have same := beqEntries_of_subset hkeys.1 h.subset fun entry hentry =>
    beq_self (hkeys.2 entry (h.subset hentry)) (hnan entry (h.subset hentry))
  exact (Bool.and_eq_true _ _).mpr ⟨by rw [h.length_eq]; exact beq_self_eq_true _, same⟩

end Fiction.Value
