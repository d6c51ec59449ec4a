import Fiction.Expansion.Inventory
import Fiction.Proofs.Integer
import Fiction.Proofs.Store.Tree
import Mathlib.Algebra.Order.BigOperators.Group.List
import Mathlib.Algebra.Order.Ring.Int

/-!
# Fiction.Proofs.Store.Bag

**The inventory is a bag of positive counts.** The variable `inv` is not there yet, or it maps the items
held to how many of them there are.

* `Store.held` is the count of an item, which is zero if the item is not there.
* `Store.IsBag` is what a store has to satisfy: all counts are positive, so an item that is there is held.
* `Store.recount` changes one count. `IsBag.recount` says that a bag stays one, and `recounted` that
  nothing else changes.
* `IsBag.total`: the sum of positive counts fits if and only if no partial sum overflows.
-/

namespace Fiction

namespace Mapping

variable {α : Type u}

/-- An insertion touches no entry with another key. -/
theorem erase_insert (m : Mapping α) (key : String) (v : α) :
    erase (insert m key v) key = erase m key := by
  induction m with
  | nil => simp [insert, erase]
  | cons entry rest ih =>
      obtain ⟨k, w⟩ := entry
      unfold erase at ih ⊢
      by_cases same : k = key
      · simp [insert, same]
      · rw [insert, if_neg same, List.filter_cons_of_pos (by simpa using same),
          List.filter_cons_of_pos (by simpa using same), ih]

end Mapping

/-- A value that counts something. -/
def Value.IsCount (v : Value) : Prop :=
  ∃ n : Int64, v = .int n ∧ 0 < n.toInt

namespace Store

/-- The items with their counts. -/
def inventory (s : Store) : Mapping Value :=
  match Mapping.get? s.root "inv" with
  | some (.mapping items) => items
  | _ => []

/-- How many there are of an item. -/
def held (s : Store) (item : String) : Int :=
  match Mapping.get? s.inventory item with
  | some (.int n) => n.toInt
  | _ => 0

/-- A store whose inventory is missing or maps items to positive counts. -/
structure IsBag (s : Store) : Prop where
  mapping : ∀ v, Mapping.get? s.root "inv" = some v → v = .mapping s.inventory
  distinct : Mapping.Distinct s.inventory
  positive : ∀ entry ∈ s.inventory, entry.2.IsCount

/-- Another inventory. -/
def withInventory (s : Store) (items : Mapping Value) : Store :=
  ⟨Mapping.insert s.root "inv" (.mapping items)⟩

/-- Another count of an item, which is not there any more at zero or below. -/
def recount (s : Store) (item : String) (count : Int64) : Store :=
  if 0 < count.toInt then s.withInventory (Mapping.insert s.inventory item (.int count))
  else if Mapping.contains s.root "inv" then s.withInventory (Mapping.erase s.inventory item)
  else s

/-- All that has changed is the count of an item. An item is there if it is held; the other items and the
other variables are the same and in the same order. -/
structure Recounted (s s' : Store) (item : String) (count : Int) : Prop where
  held : s'.held item = count
  entry : Mapping.contains s'.inventory item = true ↔ 0 < count
  items : Mapping.erase s'.inventory item = Mapping.erase s.inventory item
  others : Mapping.erase s'.root "inv" = Mapping.erase s.root "inv"

variable {s : Store} {item : String}

theorem inventory_withInventory (s : Store) (items : Mapping Value) :
    (s.withInventory items).inventory = items := by
  rw [inventory, withInventory, Mapping.get?_insert, if_pos rfl]

theorem inventory_of_missing (h : Mapping.contains s.root "inv" = false) : s.inventory = [] := by
  unfold Mapping.contains at h
  rw [Option.isSome_eq_false_iff, Option.isNone_iff_eq_none] at h
  rw [inventory, h]

theorem isBag_withInventory {items : Mapping Value} (distinct : Mapping.Distinct items)
    (positive : ∀ entry ∈ items, entry.2.IsCount) : (s.withInventory items).IsBag := by
  have whole := s.inventory_withInventory items
  refine ⟨fun v hv => ?_, ?_, ?_⟩
  · rw [withInventory, Mapping.get?_insert, if_pos rfl] at hv
    rw [whole, ← Option.some.inj hv]
  · rwa [whole]
  · rwa [whole]

/-- An item that is there is held, and one that is not is not. -/
theorem IsBag.get?_cases (bag : s.IsBag) (item : String) :
    (Mapping.get? s.inventory item = none ∧ s.held item = 0) ∨
      ∃ n : Int64, Mapping.get? s.inventory item = some (.int n) ∧ s.held item = n.toInt ∧
        0 < n.toInt := by
  unfold held
  cases found : Mapping.get? s.inventory item with
  | none => exact .inl ⟨rfl, rfl⟩
  | some v =>
      obtain ⟨n, rfl, positive⟩ := bag.positive _ (Mapping.mem_of_get? found)
      exact .inr ⟨n, rfl, rfl, positive⟩

/-! ## Reading and writing a count -/

open Expansion (itemPath)

/-- The inventory is there or not. -/
theorem IsBag.found_cases (bag : s.IsBag) :
    (Mapping.get? s.root "inv" = none ∧ Mapping.contains s.root "inv" = false ∧ s.inventory = []) ∨
      (Mapping.get? s.root "inv" = some (.mapping s.inventory) ∧
        Mapping.contains s.root "inv" = true) := by
  cases found : Mapping.get? s.root "inv" with
  | none =>
      have missing : Mapping.contains s.root "inv" = false := by rw [Mapping.contains, found]; rfl
      exact .inl ⟨rfl, missing, inventory_of_missing missing⟩
  | some v =>
      rw [bag.mapping v found]
      exact .inr ⟨rfl, by rw [Mapping.contains, found]; rfl⟩

theorem IsBag.get (bag : s.IsBag) (item : String) :
    s.get (itemPath item) =
      match Mapping.get? s.inventory item with
      | some v => .ok v
      | none => .error (.undefined (itemPath item).text) := by
  rw [get_eq_getIn]
  rcases bag.found_cases with ⟨missing, -, none⟩ | ⟨found, -⟩
  · rw [none]
    exact getIn_missing missing
  · refine (getIn_inside found).trans ?_
    cases there : Mapping.get? s.inventory item with
    | none => exact getIn_missing there
    | some v => exact getIn_last there

theorem IsBag.set (bag : s.IsBag) (item : String) (v : Value) :
    s.set (itemPath item) v = (.ok (), s.withInventory (Mapping.insert s.inventory item v)) := by
  have edited : editIn (itemPath item) true (put v) 0 "inv" [item] s.root =
      (.ok (), Mapping.insert s.root "inv" (.mapping (Mapping.insert s.inventory item v))) := by
    rcases bag.found_cases with ⟨missing, -, none⟩ | ⟨found, -⟩
    · rw [none]
      exact editIn_created missing
    · exact editIn_inside found
  rw [set_eq]
  dsimp only [itemPath] at edited ⊢
  rw [edited]
  rfl

/-- Removing an item fails only if there is no inventory yet, and then there is nothing to remove. -/
theorem IsBag.remove (bag : s.IsBag) (item : String) :
    s.remove (itemPath item) =
      if Mapping.contains s.root "inv" then
        (.ok (Mapping.get? s.inventory item), s.withInventory (Mapping.erase s.inventory item))
      else (.error (.undefined (itemPath item).text), s) := by
  unfold Store.remove edit
  dsimp only [itemPath]
  rcases bag.found_cases with ⟨missing, absent, -⟩ | ⟨found, present⟩
  · rw [editIn_missing missing, absent, if_neg Bool.false_ne_true]
  · rw [editIn_inside found, present, if_pos rfl]
    rfl

/-! ## Changing a count -/

theorem inventory_recount (s : Store) (item : String) (count : Int64) :
    (s.recount item count).inventory =
      if 0 < count.toInt then Mapping.insert s.inventory item (.int count)
      else Mapping.erase s.inventory item := by
  unfold recount
  split
  · rw [inventory_withInventory]
  · split
    · rw [inventory_withInventory]
    · next missing =>
        rw [inventory_of_missing (Bool.eq_false_iff.mpr missing)]
        rfl

theorem IsBag.recount (bag : s.IsBag) (item : String) (count : Int64) :
    (s.recount item count).IsBag := by
  unfold Store.recount
  split
  · next positive =>
      refine isBag_withInventory (Mapping.distinct_insert bag.distinct) fun entry hentry => ?_
      rcases Mapping.mem_insert hentry with old | rfl
      · exact bag.positive entry old
      · exact ⟨count, rfl, positive⟩
  · split
    · refine isBag_withInventory (bag.distinct.filter _) fun entry hentry => ?_
      exact bag.positive entry (List.mem_filter.mp hentry).1
    · exact bag

/-- **A change of one count changes nothing else.** -/
theorem recounted (s : Store) (item : String) (count : Int64) :
    s.Recounted (s.recount item count) item (max 0 count.toInt) := by
  have items := s.inventory_recount item count
  have others : Mapping.erase (s.recount item count).root "inv" = Mapping.erase s.root "inv" := by
    unfold recount
    split
    · exact Mapping.erase_insert ..
    · split
      · exact Mapping.erase_insert ..
      · rfl
  split at items
  · next positive =>
      have found : Mapping.get? (s.recount item count).inventory item = some (.int count) := by
        rw [items, Mapping.get?_insert, if_pos rfl]
      refine ⟨?_, ?_, by rw [items, Mapping.erase_insert], others⟩
      · rw [held, found]
        dsimp only
        omega
      · rw [Mapping.contains, found, Option.isSome_some]
        simp only [true_iff]
        omega
  · next gone =>
      have missing : Mapping.get? (s.recount item count).inventory item = none := by
        rw [items, Mapping.get?_erase, if_pos rfl]
      refine ⟨?_, ?_, by rw [items]; simp [Mapping.erase], others⟩
      · rw [held, missing]
        dsimp only
        omega
      · rw [Mapping.contains, missing, Option.isSome_none]
        simp only [Bool.false_eq_true, false_iff]
        omega

/-! ## Adding up -/

open Expansion (countOf total)

/-- The number of all items. -/
def allHeld (s : Store) : Int :=
  ((s.inventory.map Prod.fst).map s.held).sum

/-- Positive counts, added one after the other: a sum that is too great stays too great. -/
theorem foldlM_add?_counts {counts : List Value} (h : ∀ v ∈ counts, v.IsCount) (start : Int64) :
    counts.foldlM (fun sum v => Integer.add? sum (countOf v)) start =
      Integer.fit? (start.toInt + (counts.map fun v => (countOf v).toInt).sum) := by
  induction counts generalizing start with
  | nil =>
      rw [List.foldlM_nil, List.map_nil, List.sum_nil, Int.add_zero, Integer.fit?_toInt]
      rfl
  | cons v counts ih =>
      rw [List.forall_mem_cons] at h
      obtain ⟨⟨k, rfl, positive⟩, later⟩ := h
      have rest : 0 ≤ (counts.map fun v => (countOf v).toInt).sum := by
        refine List.sum_nonneg fun n hn => ?_
        obtain ⟨v, hv, rfl⟩ := List.mem_map.mp hn
        obtain ⟨k, rfl, positive⟩ := later v hv
        exact Int.le_of_lt positive
      have first : Integer.add? start (countOf (.int k)) = Integer.fit? (start.toInt + k.toInt) := rfl
      have head : (countOf (.int k)).toInt = k.toInt := rfl
      rw [List.foldlM_cons, first, List.map_cons, List.sum_cons, head, ← Int.add_assoc]
      by_cases fits : Integer.Fits (start.toInt + k.toInt)
      · obtain ⟨sum, hsum, found⟩ := Integer.exists_of_fits fits
        rw [found, ← hsum]
        exact ih later sum
      · -- what is added is positive, so the sum is above the range and stays there
        have low := (Integer.fits_toInt start).1
        have high : ¬ Integer.Fits (start.toInt + k.toInt +
            (counts.map fun v => (countOf v).toInt).sum) := by
          unfold Integer.Fits at fits ⊢
          omega
        rw [Integer.fit?_of_not_fits fits, Integer.fit?_of_not_fits high]
        rfl

/-- **The counts of a bag add up to the number of all items**, if that fits. -/
theorem IsBag.total (bag : s.IsBag) :
    (∀ n : Int64, n.toInt = s.allHeld → Expansion.total (s.inventory.map Prod.snd) = .ok n) ∧
      (¬ Integer.Fits s.allHeld →
        Expansion.total (s.inventory.map Prod.snd) = .error (.invalidValue (.overflow "count"))) := by
  have counts : ∀ v ∈ s.inventory.map Prod.snd, v.IsCount := by
    intro v hv
    obtain ⟨entry, hentry, rfl⟩ := List.mem_map.mp hv
    exact bag.positive entry hentry
  have same : (s.inventory.map Prod.snd).map (fun v => (countOf v).toInt) =
      (s.inventory.map Prod.fst).map s.held := by
    rw [List.map_map, List.map_map]
    refine List.map_congr_left fun entry hentry => ?_
    obtain ⟨k, hk, -⟩ := bag.positive entry hentry
    have found : Mapping.get? s.inventory entry.1 = some (.int k) :=
      hk ▸ Mapping.get?_of_mem bag.distinct hentry
    rw [Function.comp_apply, Function.comp_apply, hk, held, found]
    rfl
  have folded : (s.inventory.map Prod.snd).foldlM (fun sum v => Integer.add? sum (countOf v)) 0 =
      Integer.fit? s.allHeld := by
    rw [foldlM_add?_counts counts, same, Int64.toInt_zero, Int.zero_add, allHeld]
  unfold Expansion.total
  rw [folded]
  constructor
  · intro n hn
    rw [Integer.fit?_eq_some_iff.mpr hn]
  · intro high
    rw [Integer.fit?_of_not_fits high]

end Store

end Fiction
