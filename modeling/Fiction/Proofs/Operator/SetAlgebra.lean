import Fiction.Operator.Apply
import Fiction.Proofs.Value.Equality
import Mathlib.Data.List.Nodup

/-!
# Fiction.Proofs.Operator.SetAlgebra

**Mappings obey the algebra of sets.** `+` and `|` take all keys of two mappings, `&` the shared ones and `-` those
of the first that the second lacks. They differ in whose values they keep.

* `Mapping.Holds` says all there is to know of a mapping: its keys in their order, none of them twice, and the value
  of each. `holds_union`, `holds_restrict` and `holds_without` say it of the set operations.
* `Mapping.perm_of_get?`: mappings that hold the same values differ in their order only.
* `Operator.mappings_obey_set_algebra` is the main statement.
-/

namespace Fiction

namespace Mapping

variable {α : Type u} {m m' other : Mapping α} {overwrite : Bool}

/-! ## Keys and values -/

/-- A mapping with these keys in this order, none of them twice, and these values. -/
structure Holds (m : Mapping α) (keys : List String) (value : String → Option α) : Prop where
  keys : m.map Prod.fst = keys
  value : ∀ key, get? m key = value key
  distinct : Distinct m

theorem mem_iff_get? (h : Distinct m) {entry : String × α} :
    entry ∈ m ↔ get? m entry.1 = some entry.2 :=
  ⟨get?_of_mem h, mem_of_get?⟩

/-- Mappings that hold the same values differ in the order of their entries only. -/
theorem perm_of_get? (hm : Distinct m) (hm' : Distinct m') (h : ∀ key, get? m key = get? m' key) :
    m.Perm m' := by
  refine (List.perm_ext_iff_of_nodup (List.Nodup.of_map _ hm) (List.Nodup.of_map _ hm')).mpr fun entry => ?_
  rw [mem_iff_get? hm, mem_iff_get? hm', h]

/-! ## Union -/

/-- What one entry of the other mapping does in a union. -/
def take (overwrite : Bool) (m : Mapping α) (entry : String × α) : Mapping α :=
  if overwrite || !contains m entry.1 then insert m entry.1 entry.2 else m

theorem union_cons (m : Mapping α) (entry : String × α) (rest : Mapping α) :
    union m (entry :: rest) overwrite = union (take overwrite m entry) rest overwrite := rfl

/-- A key that is there stays in its place, and a new one goes to the end. -/
theorem map_fst_take (m : Mapping α) (entry : String × α) :
    (take overwrite m entry).map Prod.fst =
      if entry.1 ∈ m.map Prod.fst then m.map Prod.fst else m.map Prod.fst ++ [entry.1] := by
  unfold take
  by_cases found : contains m entry.1 = true
  · rw [if_pos (contains_iff.mp found)]
    split
    · rw [map_fst_insert, if_pos found]
    · rfl
  · rw [if_pos (by simp [found]), if_neg (mt contains_iff.mpr found), map_fst_insert, if_neg found]

theorem get?_take (m : Mapping α) (entry : String × α) (key : String) :
    get? (take overwrite m entry) key =
      if entry.1 = key then (if overwrite then some entry.2 else (get? m key).or (some entry.2))
      else get? m key := by
  unfold take
  by_cases here : entry.1 = key
  · subst here
    cases overwrite with
    | true => simp [get?_insert]
    | false =>
        cases found : get? m entry.1 with
        | none => simp [contains, found, get?_insert]
        | some v => simp [contains, found]
  · rw [if_neg here]
    split
    · rw [get?_insert, if_neg here]
    · rfl

/-- **The keys of a union** are those of the first mapping and then the new ones. -/
theorem map_fst_union (h : Distinct other) (m : Mapping α) :
    (union m other overwrite).map Prod.fst =
      m.map Prod.fst ++ (other.map Prod.fst).filter (· ∉ m.map Prod.fst) := by
  induction other generalizing m with
  | nil => simp [union]
  | cons entry rest ih =>
      obtain ⟨new, distinct⟩ := List.nodup_cons.mp h
      rw [union_cons, ih distinct, map_fst_take, List.map_cons]
      split
      · next found => rw [List.filter_cons_of_neg (by simpa using found)]
      · next absent =>
          -- the key that has come in does not come again
          have later : (rest.map Prod.fst).filter (· ∉ m.map Prod.fst ++ [entry.1]) =
              (rest.map Prod.fst).filter (· ∉ m.map Prod.fst) := by
            refine List.filter_congr fun key hkey => ?_
            have other : key ≠ entry.1 := fun same => new (same ▸ hkey)
            simp [other]
          rw [later, List.filter_cons_of_pos (by simpa using absent), List.append_assoc,
            List.singleton_append]

/-- **The values of a union** are those of the mapping that wins, where it has the key. -/
theorem get?_union (h : Distinct other) (m : Mapping α) (key : String) :
    get? (union m other overwrite) key =
      if overwrite then (get? other key).or (get? m key) else (get? m key).or (get? other key) := by
  induction other generalizing m with
  | nil => cases overwrite <;> simp [union]
  | cons entry rest ih =>
      obtain ⟨new, distinct⟩ := List.nodup_cons.mp h
      obtain ⟨k, v⟩ := entry
      rw [union_cons, ih distinct, get?_take, get?_cons]
      by_cases here : k = key
      · have once : get? rest key = none := get?_of_not_mem (here ▸ new)
        cases overwrite with
        | true => simp [here, once]
        | false => simp [here, once]
      · simp [here]

theorem holds_union (overwrite : Bool) (hm : Distinct m) (h : Distinct other) :
    (union m other overwrite).Holds
      (m.map Prod.fst ++ (other.map Prod.fst).filter (· ∉ m.map Prod.fst))
      (fun key =>
        if overwrite then (get? other key).or (get? m key) else (get? m key).or (get? other key)) := by
  refine ⟨map_fst_union h m, get?_union h m, ?_⟩
  unfold Distinct
  rw [map_fst_union h]
  refine List.Nodup.append hm (List.Nodup.filter _ h) fun key left right => ?_
  simpa [left] using List.of_mem_filter right

/-! ## Restriction and difference -/

theorem get?_restrict (m other : Mapping α) (key : String) :
    get? (restrict m other) key = if contains m key then get? other key else none := by
  induction m with
  | nil => rfl
  | cons entry rest ih =>
      obtain ⟨k, v⟩ := entry
      unfold restrict contains at *
      rw [List.filterMap_cons, get?_cons]
      dsimp only
      by_cases here : k = key
      · subst here
        cases found : get? other k with
        | none => simp [found, ih]
        | some w => simp [get?_cons]
      · cases get? other k with
        | none => simp [here, ih]
        | some w => simp [here, ih, get?_cons]

theorem get?_without (m other : Mapping α) (key : String) :
    get? (without m other) key = if contains other key then none else get? m key := by
  rw [without, get?_filter m fun k => !contains other k]
  cases contains other key <;> simp

theorem holds_restrict (hm : Distinct m) (other : Mapping α) :
    (restrict m other).Holds ((m.map Prod.fst).filter (· ∈ other.map Prod.fst))
      (fun key => if contains m key then get? other key else none) := by
  have keys : (restrict m other).map Prod.fst = (m.map Prod.fst).filter (· ∈ other.map Prod.fst) := by
    rw [map_fst_restrict, List.filter_map]
    refine congrArg _ (List.filter_congr fun entry _ => ?_)
    rw [Bool.eq_iff_iff, contains_iff, Function.comp_apply, decide_eq_true_iff]
  refine ⟨keys, get?_restrict m other, ?_⟩
  unfold Distinct
  rw [keys]
  exact List.Nodup.filter _ hm

theorem holds_without (hm : Distinct m) (other : Mapping α) :
    (without m other).Holds ((m.map Prod.fst).filter (· ∉ other.map Prod.fst))
      (fun key => if contains other key then none else get? m key) := by
  refine ⟨?_, get?_without m other, Distinct.filter hm _⟩
  rw [without, List.filter_map]
  refine congrArg _ (List.filter_congr fun entry _ => ?_)
  rw [Bool.eq_iff_iff, Bool.not_eq_true', Function.comp_apply, decide_eq_true_iff, ← contains_iff,
    Bool.not_eq_true]

end Mapping

/-! ## Operators -/

namespace Operator

open Mapping (get? contains Distinct Holds)

variable {a b m m' : Mapping Value}

/-- Two mappings that are the same but for the order of their entries. The language takes them for equal, unless
there is a NaN in them, which equals nothing. -/
structure SameMapping (m m' : Mapping Value) : Prop where
  entries : m.Perm m'
  equal : (Value.mapping m').Keyed → (Value.mapping m').NanFree →
    equal.apply (.mapping m) (.mapping m') = .ok (.bool true)

theorem sameMapping_of_get? (hm : Distinct m) (hm' : Distinct m')
    (h : ∀ key, get? m key = get? m' key) : SameMapping m m' := by
  have entries := Mapping.perm_of_get? hm hm' h
  refine ⟨entries, fun hkeys hnan => ?_⟩
  rw [apply, Value.beq_mapping_of_perm entries hkeys hnan]

/-- What is left of a mapping and what was taken from it make it up again. -/
theorem sameMapping_union_without (ha : Distinct a) (hb : Distinct b) :
    SameMapping (Mapping.union (Mapping.without a b) (Mapping.restrict b a) true) a := by
  have rest := Mapping.holds_without ha b
  have taken := Mapping.holds_restrict hb a
  have whole := Mapping.holds_union true rest.distinct taken.distinct
  refine sameMapping_of_get? whole.distinct ha fun key => ?_
  rw [whole.value, if_pos rfl, rest.value, taken.value]
  cases contains b key <;> simp

/-- Which mapping comes first matters for the order only, if the same one wins. -/
theorem sameMapping_union_swap (ha : Distinct a) (hb : Distinct b) :
    SameMapping (Mapping.union a b true) (Mapping.union b a false) := by
  have added := Mapping.holds_union true ha hb
  have united := Mapping.holds_union false hb ha
  refine sameMapping_of_get? added.distinct united.distinct fun key => ?_
  rw [added.value, united.value, if_pos rfl, if_neg Bool.false_ne_true]

/-- **Mappings obey the algebra of sets.** `+` and `|` have the keys of both mappings, with the values of the second
and of the first one where both have the key; `&` has the shared keys with the values of the second one, and `-` the
keys of the first one that the second lacks. Keys come in the order of the first mapping and then, new ones, in that
of the second, and none comes twice. So `(a - b) + (b & a)` is `a` and `a + b` is `b | a`, the order aside. -/
theorem mappings_obey_set_algebra {a b : Mapping Value} (ha : Distinct a) (hb : Distinct b) :
    (∃ m, plus.apply (.mapping a) (.mapping b) = .ok (.mapping m) ∧
      Holds m (a.map Prod.fst ++ (b.map Prod.fst).filter (· ∉ a.map Prod.fst))
        fun key => (get? b key).or (get? a key)) ∧
    (∃ m, bar.apply (.mapping a) (.mapping b) = .ok (.mapping m) ∧
      Holds m (a.map Prod.fst ++ (b.map Prod.fst).filter (· ∉ a.map Prod.fst))
        fun key => (get? a key).or (get? b key)) ∧
    (∃ m, ampersand.apply (.mapping a) (.mapping b) = .ok (.mapping m) ∧
      Holds m ((a.map Prod.fst).filter (· ∈ b.map Prod.fst))
        fun key => if contains a key then get? b key else none) ∧
    (∃ m, minus.apply (.mapping a) (.mapping b) = .ok (.mapping m) ∧
      Holds m ((a.map Prod.fst).filter (· ∉ b.map Prod.fst))
        fun key => if contains b key then none else get? a key) ∧
    (∃ rest taken whole, minus.apply (.mapping a) (.mapping b) = .ok (.mapping rest) ∧
      ampersand.apply (.mapping b) (.mapping a) = .ok (.mapping taken) ∧
      plus.apply (.mapping rest) (.mapping taken) = .ok (.mapping whole) ∧ SameMapping whole a) ∧
    (∃ added united, plus.apply (.mapping a) (.mapping b) = .ok (.mapping added) ∧
      bar.apply (.mapping b) (.mapping a) = .ok (.mapping united) ∧ SameMapping added united) := by
  refine ⟨⟨_, rfl, ?_⟩, ⟨_, rfl, ?_⟩, ⟨_, rfl, Mapping.holds_restrict ha b⟩,
    ⟨_, rfl, Mapping.holds_without ha b⟩, ⟨_, _, _, rfl, rfl, rfl, sameMapping_union_without ha hb⟩,
    ⟨_, _, rfl, rfl, sameMapping_union_swap ha hb⟩⟩
  · exact Mapping.holds_union true ha hb
  · exact Mapping.holds_union false ha hb

/-- A purse and a chest. -/
theorem chest_obeys_set_algebra :
    ∃ m, plus.apply (.mapping [("coins", .int 1), ("keys", .int 2)])
        (.mapping [("keys", .int 20), ("rope", .null)]) = .ok (.mapping m) ∧
      m.map Prod.fst = ["coins", "keys", "rope"] ∧ get? m "keys" = some (.int 20) := by
  obtain ⟨⟨m, found, holds⟩, -⟩ := mappings_obey_set_algebra
    (a := [("coins", .int 1), ("keys", .int 2)]) (b := [("keys", .int 20), ("rope", .null)])
    (by decide) (by decide)
  exact ⟨m, found, holds.keys.trans (by decide), (holds.value "keys").trans rfl⟩

end Operator

end Fiction
