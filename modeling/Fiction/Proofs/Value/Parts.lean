import Fiction.Proofs.Mapping
import Fiction.Value.Basic

/-!
# Fiction.Proofs.Value.Parts

The parts of a value, and induction over them.

* `Value.induction` is the induction principle of values: of a list or a mapping it is known what is
  known of the values in it.
* `Value.parts` lists a value and all values in it. `Value.RealFree` and `Value.Keyed` are said of
  all parts at once: no part is a real, and no part has a key twice. `keyed_list_iff` and
  `keyed_mapping_iff` say what the second takes for a collection.
-/

namespace Fiction.Value

/-- Induction over values. -/
@[induction_eliminator]
theorem induction {motive : Value → Prop} (null : motive .null) (bool : ∀ b, motive (.bool b))
    (int : ∀ n, motive (.int n)) (real : ∀ x, motive (.real x)) (text : ∀ s, motive (.text s))
    (list : ∀ items, (∀ v ∈ items, motive v) → motive (.list items))
    (mapping : ∀ entries, (∀ entry ∈ entries, motive entry.2) → motive (.mapping entries))
    (v : Value) : motive v :=
  @Value.rec motive (fun items => ∀ v ∈ items, motive v)
    (fun entries => ∀ entry ∈ entries, motive entry.2) (fun entry => motive entry.2)
    null bool int real text list mapping
    (fun _ h => absurd h List.not_mem_nil)
    (fun _ _ first rest _ h => (List.mem_cons.mp h).elim (· ▸ first) (rest _))
    (fun _ h => absurd h List.not_mem_nil)
    (fun _ _ first rest _ h => (List.mem_cons.mp h).elim (· ▸ first) (rest _))
    (fun _ _ h => h) v

mutual

/-- A value and all values in it. -/
def parts : Value → List Value
  | null => [null]
  | bool b => [bool b]
  | int n => [int n]
  | real x => [real x]
  | text s => [text s]
  | list items => list items :: partsOfItems items
  | mapping entries => mapping entries :: partsOfEntries entries

/-- The parts of the items of a list. -/
def partsOfItems : List Value → List Value
  | [] => []
  | v :: rest => v.parts ++ partsOfItems rest

/-- The parts of the values of a mapping. -/
def partsOfEntries : List (String × Value) → List Value
  | [] => []
  | (_, v) :: rest => v.parts ++ partsOfEntries rest

end

variable {P : Value → Prop}

/-- The parts of a list are itself and the parts of its items. -/
theorem forall_parts_list {items : List Value} : (∀ part ∈ (list items).parts, P part) ↔
    P (list items) ∧ ∀ v ∈ items, ∀ part ∈ v.parts, P part := by
  have inside : (∀ part ∈ partsOfItems items, P part) ↔ ∀ v ∈ items, ∀ part ∈ v.parts, P part := by
    induction items with
    | nil => simp [partsOfItems]
    | cons v rest ih => rw [partsOfItems, List.forall_mem_append, ih, List.forall_mem_cons]
  rw [parts, List.forall_mem_cons, inside]

/-- The parts of a mapping are itself and the parts of its values. -/
theorem forall_parts_mapping {entries : List (String × Value)} :
    (∀ part ∈ (mapping entries).parts, P part) ↔
      P (mapping entries) ∧ ∀ entry ∈ entries, ∀ part ∈ entry.2.parts, P part := by
  have inside : (∀ part ∈ partsOfEntries entries, P part) ↔
      ∀ entry ∈ entries, ∀ part ∈ entry.2.parts, P part := by
    induction entries with
    | nil => simp [partsOfEntries]
    | cons entry rest ih => rw [partsOfEntries, List.forall_mem_append, ih, List.forall_mem_cons]
  rw [parts, List.forall_mem_cons, inside]

/-- The entries of a mapping; other values have none. -/
def entries : Value → Mapping Value
  | mapping entries => entries
  | null | bool _ | int _ | real _ | text _ | list _ => []

/-- A value that is no collection. -/
def IsAtom : Value → Prop
  | null | bool _ | int _ | real _ | text _ => True
  | list _ | mapping _ => False

/-- No part of the value is a real. -/
def RealFree (v : Value) : Prop :=
  ∀ part ∈ v.parts, part.kind ≠ .real

/-- No part of the value has a key twice. -/
def Keyed (v : Value) : Prop :=
  ∀ part ∈ v.parts, Mapping.Distinct part.entries

instance (v : Value) : Decidable v.RealFree :=
  inferInstanceAs (Decidable (∀ part ∈ v.parts, part.kind ≠ .real))

instance (v : Value) : Decidable v.Keyed :=
  inferInstanceAs (Decidable (∀ part ∈ v.parts, Mapping.Distinct part.entries))

variable {v : Value} {items : List Value} {m : Mapping Value}

theorem keyed_of_isAtom (h : v.IsAtom) : v.Keyed := by
  cases v with
  | null | bool b | int n | real x | text s => exact List.forall_mem_singleton.mpr List.nodup_nil
  | list items => exact h.elim
  | mapping entries => exact h.elim

theorem keyed_list_iff : (list items).Keyed ↔ ∀ v ∈ items, v.Keyed :=
  forall_parts_list.trans ⟨fun h => h.2, fun h => ⟨List.nodup_nil, h⟩⟩

/-- In a mapping keys are distinct on the top and below. -/
theorem keyed_mapping_iff :
    (mapping m).Keyed ↔ Mapping.Distinct m ∧ ∀ entry ∈ m, entry.2.Keyed :=
  forall_parts_mapping

theorem realFree_list_iff : (list items).RealFree ↔ ∀ v ∈ items, v.RealFree :=
  forall_parts_list.trans ⟨fun h => h.2, fun h => ⟨nofun, h⟩⟩

theorem realFree_mapping_iff : (mapping m).RealFree ↔ ∀ entry ∈ m, entry.2.RealFree :=
  forall_parts_mapping.trans ⟨fun h => h.2, fun h => ⟨nofun, h⟩⟩

end Fiction.Value
