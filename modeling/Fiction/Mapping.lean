/-!
# Fiction.Mapping

Mappings from text to values that remember the order in which keys came in.

* `Mapping` is a list of entries; `get?` is its view as a function.
* `insert` keeps the place of a key that is already there and appends a new one.
* `erase` closes the gap, so the other keys keep their order.
* `union`, `restrict` and `without` are the set operations on keys.

Every mapping that the library builds has distinct keys; `Distinct` says so.
-/

namespace Fiction

/-- Entries in the order their keys were first inserted. -/
abbrev Mapping (α : Type u) := List (String × α)

namespace Mapping

variable {α : Type u}

/-- No key occurs twice. -/
def Distinct (m : Mapping α) : Prop :=
  (m.map Prod.fst).Nodup

/-- The value of a key. -/
def get? (m : Mapping α) (key : String) : Option α :=
  match m with
  | [] => none
  | (k, v) :: rest => if k = key then some v else get? rest key

/-- Whether a key is there. -/
def contains (m : Mapping α) (key : String) : Bool :=
  (get? m key).isSome

/-- Puts a value at a key: in place if the key is there, at the end if it is new. -/
def insert (m : Mapping α) (key : String) (value : α) : Mapping α :=
  match m with
  | [] => [(key, value)]
  | (k, v) :: rest =>
      if k = key then (k, value) :: rest else (k, v) :: insert rest key value

/-- Removes a key; the others keep their order. -/
def erase (m : Mapping α) (key : String) : Mapping α :=
  m.filter fun (k, _) => k ≠ key

/-- Inserts entries one after the other, so the last value of a key stays. -/
def ofEntries (entries : List (String × α)) : Mapping α :=
  entries.foldl (fun m (k, v) => insert m k v) []

/-- All keys of both mappings. A shared key keeps its place in `m`; its value is that of `other`
when `overwrite` holds. -/
def union (m other : Mapping α) (overwrite : Bool) : Mapping α :=
  other.foldl (fun out (k, v) => if overwrite || !contains out k then insert out k v else out) m

/-- The keys that both mappings have, in the order of `m` and with the values of `other`. -/
def restrict (m other : Mapping α) : Mapping α :=
  m.filterMap fun (k, _) => (get? other k).map fun v => (k, v)

/-- The entries whose keys the other mapping lacks. -/
def without (m other : Mapping α) : Mapping α :=
  m.filter fun (k, _) => !contains other k

@[simp] theorem get?_nil (key : String) : get? ([] : Mapping α) key = none := rfl

theorem get?_cons (k : String) (v : α) (m : Mapping α) (key : String) :
    get? ((k, v) :: m) key = if k = key then some v else get? m key := rfl

/-- What a key holds after an insertion. -/
theorem get?_insert (m : Mapping α) (k : String) (v : α) (key : String) :
    get? (insert m k v) key = if k = key then some v else get? m key := by
  induction m with
  | nil => rfl
  | cons entry rest ih =>
      obtain ⟨k', v'⟩ := entry
      by_cases h : k' = k
      · subst h; by_cases h' : k' = key <;> simp [insert, get?_cons, h']
      · by_cases h' : k' = key
        · subst h'; simp [insert, get?_cons, h, Ne.symm h]
        · simp [insert, get?_cons, h, h', ih]

/-- An insertion adds its key at the end unless the key is there already. -/
theorem map_fst_insert (m : Mapping α) (k : String) (v : α) :
    (insert m k v).map Prod.fst =
      if contains m k then m.map Prod.fst else m.map Prod.fst ++ [k] := by
  induction m with
  | nil => rfl
  | cons entry rest ih =>
      obtain ⟨k', v'⟩ := entry
      by_cases h : k' = k
      · simp [insert, contains, get?_cons, h]
      · simp only [insert, h, if_false, List.map_cons, ih, contains, get?_cons]
        split <;> simp_all

end Mapping

end Fiction
