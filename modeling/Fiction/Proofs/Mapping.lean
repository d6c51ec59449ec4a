import Fiction.Mapping

/-!
# Fiction.Proofs.Mapping

Mappings that are built entry by entry.

* `insert_of_not_mem` and `mem_insert` say what an insertion does to the list of entries, and
  `foldl_erase_eq_filter` what is left when keys are removed.
* `insert_insert`, `insert_of_get?` and `get?_erase` are the laws of writing and removing.
* `mem_of_mem_restrict` and `map_fst_restrict` say where a restriction has its entries and keys from.
* `distinct_ofEntries`: whatever the entries are, the keys of the mapping are distinct.
* `ofEntries_of_distinct`: **entries with distinct keys are the mapping they make up**, in their
  order.
-/

namespace Fiction.Mapping

variable {α : Type u} {m entries : Mapping α} {key : String} {value : α}

instance (m : Mapping α) : Decidable (Distinct m) :=
  inferInstanceAs (Decidable (m.map Prod.fst).Nodup)

theorem contains_iff : contains m key = true ↔ key ∈ m.map Prod.fst := by
  induction m with
  | nil => simp [contains]
  | cons entry rest ih =>
      obtain ⟨k, v⟩ := entry
      unfold contains at ih ⊢
      rw [get?_cons, List.map_cons, List.mem_cons, ← ih]
      split
      · next same => simp [same]
      · next other => simp [Ne.symm other]

theorem mem_of_get? (h : get? m key = some value) : (key, value) ∈ m := by
  induction m with
  | nil => cases h
  | cons entry rest ih =>
      obtain ⟨k, v⟩ := entry
      rw [get?_cons] at h
      split at h
      · next same =>
          cases h
          exact same ▸ List.mem_cons_self
      · exact List.mem_cons_of_mem _ (ih h)

theorem get?_of_mem (h : Distinct m) (hm : (key, value) ∈ m) : get? m key = some value := by
  induction m with
  | nil => cases hm
  | cons entry rest ih =>
      obtain ⟨k, v⟩ := entry
      obtain ⟨new, others⟩ := List.nodup_cons.mp h
      rw [get?_cons]
      rcases List.mem_cons.mp hm with here | later
      · cases here
        exact if_pos rfl
      · have other : k ≠ key := by
          rintro rfl
          exact new (List.mem_map.mpr ⟨_, later, rfl⟩)
        rw [if_neg other, ih others later]

theorem get?_of_not_mem (h : key ∉ m.map Prod.fst) : get? m key = none := by
  have absent : ¬ contains m key = true := fun found => h (contains_iff.mp found)
  simpa [contains] using absent

/-- Where entries are kept by their keys, a key has its value or none. -/
theorem get?_filter (m : Mapping α) (keep : String → Bool) (key : String) :
    get? (m.filter fun entry => keep entry.1) key = if keep key then get? m key else none := by
  induction m with
  | nil => simp
  | cons entry rest ih =>
      obtain ⟨k, v⟩ := entry
      rw [List.filter_cons, get?_cons]
      by_cases here : k = key
      · subst here
        cases kept : keep k with
        | true => simp [get?_cons]
        | false => simp [ih, kept]
      · cases keep k with
        | true => simp [get?_cons, ih, here]
        | false => simp [ih, here]

/-- Where a key is removed, the others stay. -/
theorem get?_erase (m : Mapping α) (k key : String) :
    get? (erase m k) key = if key = k then none else get? m key := by
  rw [erase, get?_filter m (· ≠ k)]
  by_cases here : key = k <;> simp [here]

theorem map_fst_erase (m : Mapping α) (key : String) :
    (erase m key).map Prod.fst = (m.map Prod.fst).filter (· ≠ key) := by
  rw [List.filter_map]
  rfl

theorem Distinct.filter (h : Distinct m) (keep : String × α → Bool) : Distinct (m.filter keep) :=
  h.sublist (List.filter_sublist.map _)

theorem foldl_erase_eq_filter (m : Mapping α) (keys : List String) :
    keys.foldl erase m = m.filter (·.1 ∉ keys) := by
  induction keys generalizing m with
  | nil => exact (List.filter_eq_self.mpr fun _ _ => by simp).symm
  | cons key keys ih =>
      rw [List.foldl_cons, ih, erase, List.filter_filter]
      refine List.filter_congr fun entry _ => ?_
      simp [Bool.and_comm]

/-- The last of two values at a key counts. -/
theorem insert_insert (m : Mapping α) (key : String) (v w : α) :
    insert (insert m key v) key w = insert m key w := by
  induction m with
  | nil => simp [insert]
  | cons entry rest ih =>
      obtain ⟨k, v'⟩ := entry
      by_cases h : k = key
      · simp [insert, h]
      · simp [insert, h, ih]

/-- Writing what is there changes nothing. -/
theorem insert_of_get? (h : get? m key = some value) : insert m key value = m := by
  induction m with
  | nil => cases h
  | cons entry rest ih =>
      obtain ⟨k, v⟩ := entry
      rw [get?_cons] at h
      by_cases same : k = key
      · rw [if_pos same] at h
        cases h
        rw [insert, if_pos same]
      · rw [if_neg same] at h
        rw [insert, if_neg same, ih h]

/-- A new key goes to the end. -/
theorem insert_of_not_mem (h : key ∉ m.map Prod.fst) : insert m key value = m ++ [(key, value)] := by
  induction m with
  | nil => rfl
  | cons entry rest ih =>
      obtain ⟨k, v⟩ := entry
      rw [List.map_cons, List.mem_cons, not_or] at h
      rw [insert, if_neg (Ne.symm h.1), ih h.2]
      rfl

/-- An insertion adds no other entry. -/
theorem mem_insert {entry : String × α} (h : entry ∈ insert m key value) :
    entry ∈ m ∨ entry = (key, value) := by
  induction m with
  | nil => exact .inr (List.mem_singleton.mp h)
  | cons first rest ih =>
      obtain ⟨k, v⟩ := first
      rw [insert] at h
      split at h
      · next same =>
          rcases List.mem_cons.mp h with here | there
          · exact .inr (by rw [here, same])
          · exact .inl (List.mem_cons_of_mem _ there)
      · rcases List.mem_cons.mp h with here | there
        · exact .inl (here ▸ List.mem_cons_self)
        · exact (ih there).imp_left (List.mem_cons_of_mem _)

theorem distinct_insert (h : Distinct m) : Distinct (insert m key value) := by
  unfold Distinct at h ⊢
  rw [map_fst_insert]
  split
  · exact h
  · next absent =>
      rw [contains_iff] at absent
      rw [List.nodup_append]
      refine ⟨h, by simp, fun k hk k' hk' => ?_⟩
      rintro rfl
      exact absent (List.mem_singleton.mp hk' ▸ hk)

/-! ## Restrictions -/

/-- A restriction holds entries of the mapping whose values it takes. -/
theorem mem_of_mem_restrict {other : Mapping α} {entry : String × α} (h : entry ∈ restrict m other) :
    entry ∈ other := by
  obtain ⟨own, _, hown⟩ := List.mem_filterMap.mp h
  obtain ⟨v, hv, rfl⟩ := Option.map_eq_some_iff.mp hown
  exact mem_of_get? hv

/-- A restriction keeps the order of the first mapping and drops the keys that the other one lacks. -/
theorem map_fst_restrict (m other : Mapping α) :
    (restrict m other).map Prod.fst =
      (m.filter fun entry => contains other entry.1).map Prod.fst := by
  induction m with
  | nil => rfl
  | cons entry rest ih =>
      unfold restrict at ih ⊢
      rw [List.filterMap_cons]
      dsimp only
      cases found : get? other entry.1 with
      | none =>
          rw [List.filter_cons_of_neg (by simp [contains, found])]
          exact ih
      | some v =>
          rw [List.filter_cons_of_pos (by simp [contains, found])]
          exact congrArg (entry.1 :: ·) ih

/-! ## From entries -/

/-- A mapping holds entries it was built from. -/
theorem mem_of_mem_ofEntries {entry : String × α} (h : entry ∈ ofEntries entries) :
    entry ∈ entries := by
  have inserted (m back : Mapping α) (h : entry ∈ back.foldl (fun m e => insert m e.1 e.2) m) :
      entry ∈ m ∨ entry ∈ back := by
    induction back generalizing m with
    | nil => exact .inl h
    | cons first rest ih =>
        rcases ih _ h with before | later
        · rcases mem_insert before with old | new
          · exact .inl old
          · exact .inr (new ▸ List.mem_cons_self)
        · exact .inr (List.mem_cons_of_mem _ later)
  exact (inserted [] entries h).resolve_left List.not_mem_nil

/-- No key is lost. -/
theorem contains_ofEntries (h : key ∈ entries.map Prod.fst) :
    contains (ofEntries entries) key = true := by
  have inserted (m back : Mapping α) (h : key ∈ m.map Prod.fst ∨ key ∈ back.map Prod.fst) :
      key ∈ (back.foldl (fun m e => insert m e.1 e.2) m).map Prod.fst := by
    induction back generalizing m with
    | nil => exact h.resolve_right List.not_mem_nil
    | cons first rest ih =>
        refine ih _ ?_
        rw [← contains_iff] at h ⊢
        unfold contains at h ⊢
        rw [get?_insert]
        rw [List.map_cons, List.mem_cons] at h
        split
        · exact .inl rfl
        · next other =>
            rcases h with before | same | later
            · exact .inl before
            · exact absurd same.symm other
            · exact .inr later
  exact contains_iff.mpr (inserted [] entries (.inr h))

theorem distinct_ofEntries (entries : List (String × α)) : Distinct (ofEntries entries) := by
  have inserted (m : Mapping α) (h : Distinct m) :
      Distinct (entries.foldl (fun m e => insert m e.1 e.2) m) := by
    induction entries generalizing m with
    | nil => exact h
    | cons first rest ih => exact ih _ (distinct_insert h)
  exact inserted [] List.nodup_nil

/-- **Entries with distinct keys are the mapping they make up.** -/
theorem ofEntries_of_distinct (h : Distinct m) : ofEntries m = m := by
  have inserted (front back : Mapping α) (h : Distinct (front ++ back)) :
      back.foldl (fun m e => insert m e.1 e.2) front = front ++ back := by
    induction back generalizing front with
    | nil => simp
    | cons entry back ih =>
        have new : entry.1 ∉ front.map Prod.fst := by
          unfold Distinct at h
          rw [List.map_append, List.nodup_append] at h
          exact fun hk => h.2.2 _ hk _ List.mem_cons_self rfl
        rw [List.foldl_cons, insert_of_not_mem new, ih _ (by simpa using h)]
        simp
  exact inserted [] m h

end Fiction.Mapping
