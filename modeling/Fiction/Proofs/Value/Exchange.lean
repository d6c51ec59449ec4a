import Fiction.Proofs.Json.RoundTrip
import Fiction.Proofs.Value.Order
import Fiction.Value.Exchange

/-!
# Fiction.Proofs.Value.Exchange

**Values survive the way through a data tree**: any value without repeated keys where entries keep
their order, and those with keys in order where entries are sorted.

* `Value.InOrder` says that the keys of all mappings in a value are in order. What is read from a
  tree is so (`inOrder_ofSorted`), whatever the order of its members.
* `ofSorted_toSorted`: a value in order that has no reals is read back from its tree.
* `ofJson_toJson`: without sorting, it is enough that no key is repeated.
* `depth_toSorted_ofSorted_le`: reading and writing nests a tree no deeper.
-/

namespace Fiction

namespace Text

variable {a b c : String}

theorem keyLe_trans (hab : keyLe a b = true) (hbc : keyLe b c = true) : keyLe a c = true := by
  unfold keyLe at *
  rw [bne_iff_ne, ne_eq, ← Ordering.isLE_iff_ne_gt] at *
  exact Std.TransCmp.isLE_trans hab hbc

theorem keyLe_total (a b : String) : (keyLe a b || keyLe b a) = true := by
  unfold keyLe
  have swapped : compareChars b.toList a.toList = (compareChars a.toList b.toList).swap :=
    Std.OrientedCmp.eq_swap
  rw [swapped]
  cases compareChars a.toList b.toList <;> rfl

end Text

namespace Mapping

variable {α β : Type u} {m entries : Mapping α}

/-- No key occurs twice, and the keys are in order. -/
def InOrder (m : Mapping α) : Prop :=
  Distinct m ∧ m.Pairwise fun a b => Text.keyLe a.1 b.1 = true

instance (m : Mapping α) : Decidable (InOrder m) :=
  inferInstanceAs (Decidable (Distinct m ∧ m.Pairwise fun a b => Text.keyLe a.1 b.1 = true))

theorem InOrder.nil : InOrder ([] : Mapping α) :=
  ⟨List.nodup_nil, .nil⟩

/-- Only the keys count. -/
theorem InOrder.map (h : InOrder m) (f : α → β) :
    InOrder (m.map fun entry => (entry.1, f entry.2)) := by
  refine ⟨?_, List.pairwise_map.mpr h.2⟩
  unfold Distinct
  rw [List.map_map]
  exact h.1

theorem mem_of_mem_sorted {entry : String × α} (h : entry ∈ sorted entries) :
    entry ∈ entries := by
  rw [sorted, List.mem_mergeSort] at h
  exact mem_of_mem_ofEntries h

theorem inOrder_sorted (entries : List (String × α)) : InOrder (sorted entries) := by
  constructor
  · have keys := (List.mergeSort_perm (ofEntries entries) fun a b => Text.keyLe a.1 b.1).map Prod.fst
    exact keys.nodup_iff.mpr (distinct_ofEntries entries)
  · have trans (a b c : String × α) (hab : Text.keyLe a.1 b.1 = true)
        (hbc : Text.keyLe b.1 c.1 = true) : Text.keyLe a.1 c.1 = true :=
      Text.keyLe_trans hab hbc
    have total (a b : String × α) : (Text.keyLe a.1 b.1 || Text.keyLe b.1 a.1) = true :=
      Text.keyLe_total a.1 b.1
    exact List.pairwise_mergeSort trans total (ofEntries entries)

theorem sorted_of_inOrder (h : InOrder m) : sorted m = m := by
  rw [sorted, ofEntries_of_distinct h.1, List.mergeSort_of_pairwise h.2]

end Mapping

namespace Value

theorem ofSortedItems_eq_map (items : List Json) : ofSortedItems items = items.map ofSorted := by
  induction items with
  | nil => rw [ofSortedItems, List.map_nil]
  | cons j items ih => rw [ofSortedItems, ih, List.map_cons]

theorem ofSortedMembers_eq_map (members : List (String × Json)) :
    ofSortedMembers members = members.map fun member => (member.1, ofSorted member.2) := by
  induction members with
  | nil => rw [ofSortedMembers, List.map_nil]
  | cons member members ih => rw [ofSortedMembers, ih, List.map_cons]

theorem toSortedItems_eq_map (items : List Value) : toSortedItems items = items.map toSorted := by
  induction items with
  | nil => rw [toSortedItems, List.map_nil]
  | cons v items ih => rw [toSortedItems, ih, List.map_cons]

theorem toSortedMembers_eq_map (entries : Mapping Value) :
    toSortedMembers entries = entries.map fun entry => (entry.1, toSorted entry.2) := by
  induction entries with
  | nil => rw [toSortedMembers, List.map_nil]
  | cons entry entries ih => rw [toSortedMembers, ih, List.map_cons]

/-- The keys of all mappings in the value are in order. -/
def InOrder (v : Value) : Prop :=
  ∀ part ∈ v.parts, Mapping.InOrder part.entries

instance (v : Value) : Decidable v.InOrder :=
  inferInstanceAs (Decidable (∀ part ∈ v.parts, Mapping.InOrder part.entries))

theorem inOrder_list_iff {items : List Value} : (list items).InOrder ↔ ∀ v ∈ items, v.InOrder :=
  forall_parts_list.trans ⟨fun h => h.2, fun h => ⟨.nil, h⟩⟩

theorem inOrder_mapping_iff {entries : Mapping Value} :
    (mapping entries).InOrder ↔ entries.InOrder ∧ ∀ entry ∈ entries, entry.2.InOrder :=
  forall_parts_mapping

/-- Values that are read are in order. -/
theorem inOrder_ofSorted (j : Json) : (ofSorted j).InOrder := by
  induction j with
  | null | bool b | int n | real x | text s =>
      rw [ofSorted]
      exact List.forall_mem_singleton.mpr .nil
  | array items ih =>
      rw [ofSorted, ofSortedItems_eq_map, inOrder_list_iff, List.forall_mem_map]
      exact ih
  | object members ih =>
      rw [ofSorted, inOrder_mapping_iff, ofSortedMembers_eq_map]
      refine ⟨Mapping.inOrder_sorted _, fun entry hentry => ?_⟩
      obtain ⟨member, hmember, rfl⟩ := List.mem_map.mp (Mapping.mem_of_mem_sorted hentry)
      exact ih member hmember

/-- **A value in order that has no reals is read back from its tree.** -/
theorem ofSorted_toSorted {v : Value} (h : v.InOrder) (hreal : v.RealFree) :
    ofSorted v.toSorted = v := by
  induction v with
  | null | bool b | int n | text s => rw [toSorted, ofSorted]
  | real x => exact absurd rfl (hreal (real x) List.mem_cons_self)
  | list items ih =>
      rw [inOrder_list_iff] at h
      rw [realFree_list_iff] at hreal
      have back : items.map (ofSorted ∘ toSorted) = items.map id :=
        List.map_congr_left fun v hv => ih v hv (h v hv) (hreal v hv)
      rw [toSorted, ofSorted, ofSortedItems_eq_map, toSortedItems_eq_map, List.map_map, back,
        List.map_id]
  | mapping entries ih =>
      rw [inOrder_mapping_iff] at h
      rw [realFree_mapping_iff] at hreal
      -- sorting finds the keys in order both when it writes and when it reads
      have keys : Mapping.InOrder (toSortedMembers entries) := by
        rw [toSortedMembers_eq_map]
        exact h.1.map toSorted
      have back : ofSortedMembers (toSortedMembers entries) = entries.map id := by
        rw [ofSortedMembers_eq_map, toSortedMembers_eq_map, List.map_map]
        refine List.map_congr_left fun entry hentry => ?_
        exact congrArg (entry.1, ·) (ih entry hentry (h.2 entry hentry) (hreal entry hentry))
      rw [toSorted, ofSorted, Mapping.sorted_of_inOrder keys, back, List.map_id,
        Mapping.sorted_of_inOrder h.1]

theorem isRealFree_toSorted {v : Value} (hreal : v.RealFree) : v.toSorted.isRealFree = true := by
  induction v with
  | null | bool b | int n | text s => rw [toSorted, Json.isRealFree]
  | real x => exact absurd rfl (hreal (real x) List.mem_cons_self)
  | list items ih =>
      rw [realFree_list_iff] at hreal
      rw [toSorted, toSortedItems_eq_map, Json.isRealFree_array_iff, List.forall_mem_map]
      exact fun v hv => ih v hv (hreal v hv)
  | mapping entries ih =>
      rw [realFree_mapping_iff] at hreal
      rw [toSorted, toSortedMembers_eq_map, Json.isRealFree_object_iff]
      intro member hmember
      obtain ⟨entry, hentry, rfl⟩ := List.mem_map.mp (Mapping.mem_of_mem_sorted hmember)
      exact ih entry hentry (hreal entry hentry)

/-! ## Members in their own order -/

theorem ofJsonItems_eq_map (items : List Json) : ofJsonItems items = items.map ofJson := by
  induction items with
  | nil => rw [ofJsonItems, List.map_nil]
  | cons j items ih => rw [ofJsonItems, ih, List.map_cons]

theorem ofJsonMembers_eq_map (members : List (String × Json)) :
    ofJsonMembers members = members.map fun member => (member.1, ofJson member.2) := by
  induction members with
  | nil => rw [ofJsonMembers, List.map_nil]
  | cons member members ih => rw [ofJsonMembers, ih, List.map_cons]

theorem toJsonItems_eq_map (items : List Value) : toJsonItems items = items.map toJson := by
  induction items with
  | nil => rw [toJsonItems, List.map_nil]
  | cons v items ih => rw [toJsonItems, ih, List.map_cons]

theorem toJsonMembers_eq_map (entries : Mapping Value) :
    toJsonMembers entries = entries.map fun entry => (entry.1, toJson entry.2) := by
  induction entries with
  | nil => rw [toJsonMembers, List.map_nil]
  | cons entry entries ih => rw [toJsonMembers, ih, List.map_cons]

/-- **A value without repeated keys that has no reals is read back from its tree**, the order of its
entries included. -/
theorem ofJson_toJson {v : Value} (h : v.Keyed) (hreal : v.RealFree) : ofJson v.toJson = v := by
  induction v with
  | null | bool b | int n | text s => rw [toJson, ofJson]
  | real x => exact absurd rfl (hreal (real x) List.mem_cons_self)
  | list items ih =>
      rw [keyed_list_iff] at h
      rw [realFree_list_iff] at hreal
      have back : items.map (ofJson ∘ toJson) = items.map id :=
        List.map_congr_left fun v hv => ih v hv (h v hv) (hreal v hv)
      rw [toJson, ofJson, ofJsonItems_eq_map, toJsonItems_eq_map, List.map_map, back, List.map_id]
  | mapping entries ih =>
      rw [keyed_mapping_iff] at h
      rw [realFree_mapping_iff] at hreal
      have back : ofJsonMembers (toJsonMembers entries) = entries.map id := by
        rw [ofJsonMembers_eq_map, toJsonMembers_eq_map, List.map_map]
        refine List.map_congr_left fun entry hentry => ?_
        exact congrArg (entry.1, ·) (ih entry hentry (h.2 entry hentry) (hreal entry hentry))
      rw [toJson, ofJson, back, List.map_id, Mapping.ofEntries_of_distinct h.1]

theorem isRealFree_toJson {v : Value} (hreal : v.RealFree) : v.toJson.isRealFree = true := by
  induction v with
  | null | bool b | int n | text s => rw [toJson, Json.isRealFree]
  | real x => exact absurd rfl (hreal (real x) List.mem_cons_self)
  | list items ih =>
      rw [realFree_list_iff] at hreal
      rw [toJson, toJsonItems_eq_map, Json.isRealFree_array_iff, List.forall_mem_map]
      exact fun v hv => ih v hv (hreal v hv)
  | mapping entries ih =>
      rw [realFree_mapping_iff] at hreal
      rw [toJson, toJsonMembers_eq_map, Json.isRealFree_object_iff, List.forall_mem_map]
      exact fun entry hentry => ih entry hentry (hreal entry hentry)

/-! ## Nesting -/

/-- Reading and writing nests no deeper. -/
theorem depth_toSorted_ofSorted_le {j : Json} {n : Nat} (h : j.depth ≤ n) :
    (ofSorted j).toSorted.depth ≤ n := by
  induction j generalizing n with
  | null | bool b | int n | text s =>
      rw [ofSorted, toSorted]
      exact h
  | real x =>
      rw [ofSorted, toSorted, realToJson]
      split
      · exact h
      · exact Nat.zero_le n
  | array items ih =>
      obtain ⟨n, rfl⟩ := Nat.exists_eq_succ_of_ne_zero (Nat.ne_of_gt (Nat.zero_lt_of_lt h))
      rw [ofSorted, toSorted, toSortedItems_eq_map, ofSortedItems_eq_map, List.map_map,
        Json.depth_array_le_iff, List.forall_mem_map]
      exact fun j hj => ih j hj (Json.depth_array_le_iff.mp h j hj)
  | object members ih =>
      obtain ⟨n, rfl⟩ := Nat.exists_eq_succ_of_ne_zero (Nat.ne_of_gt (Nat.zero_lt_of_lt h))
      rw [ofSorted, toSorted, toSortedMembers_eq_map, Json.depth_object_le_iff]
      intro member hmember
      obtain ⟨entry, hentry, rfl⟩ := List.mem_map.mp (Mapping.mem_of_mem_sorted hmember)
      replace hentry := Mapping.mem_of_mem_sorted hentry
      rw [ofSortedMembers_eq_map] at hentry
      obtain ⟨first, hfirst, rfl⟩ := List.mem_map.mp hentry
      exact ih first hfirst (Json.depth_object_le_iff.mp h first hfirst)

end Value

end Fiction
