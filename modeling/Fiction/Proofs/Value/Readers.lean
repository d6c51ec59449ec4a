import Fiction.Proofs.Value.Equality
import Fiction.Proofs.Value.Exchange

/-!
# Fiction.Proofs.Value.Readers

**The two ways to read data agree.** Variables and commands of a story are read into a tree that holds its
members by their keys, and that is converted. Saved playthroughs are read directly: the forms of values are
tried one after the other, and the first one that takes the data decides.

* `Json.inKeyOrder` is the tree that holds members by their keys. `ofJson_inKeyOrder` says that converting
  it is what `Value.ofSorted` does in one go.
* `Value.decode?` tries the forms of values. `decode?_eq` says that one of them always takes the data, and
  that this is what `Value.ofJson` does without trying.
* `Value.Reordered` relates values that differ in the order of entries only, at any depth.
  `reordered_ofSorted_ofJson` is the agreement of the two ways, and `reordered_toSorted` says that a value
  comes back from its tree.
-/

namespace Fiction

namespace Mapping

variable {α β : Type} {m entries : Mapping α}

/-- Where a mapping has its values from does not matter for its keys. -/
theorem insert_map (f : α → β) (m : Mapping α) (key : String) (value : α) :
    insert (m.map fun entry => (entry.1, f entry.2)) key (f value) =
      (insert m key value).map fun entry => (entry.1, f entry.2) := by
  induction m with
  | nil => rfl
  | cons entry rest ih =>
      obtain ⟨k, v⟩ := entry
      rw [List.map_cons, insert, insert]
      split
      · rfl
      · rw [ih, List.map_cons]

theorem ofEntries_map (f : α → β) (entries : List (String × α)) :
    ofEntries (entries.map fun entry => (entry.1, f entry.2)) =
      (ofEntries entries).map fun entry => (entry.1, f entry.2) := by
  have inserted (m : Mapping α) :
      (entries.map fun entry => (entry.1, f entry.2)).foldl (fun m entry => insert m entry.1 entry.2)
          (m.map fun entry => (entry.1, f entry.2)) =
        (entries.foldl (fun m entry => insert m entry.1 entry.2) m).map
          fun entry => (entry.1, f entry.2) := by
    induction entries generalizing m with
    | nil => rfl
    | cons entry rest ih => rw [List.map_cons, List.foldl_cons, List.foldl_cons, insert_map, ih]
  exact inserted []

theorem sorted_map (f : α → β) (entries : List (String × α)) :
    sorted (entries.map fun entry => (entry.1, f entry.2)) =
      (sorted entries).map fun entry => (entry.1, f entry.2) := by
  rw [sorted, ofEntries_map, sorted]
  exact (List.map_mergeSort (f := fun entry : String × α => (entry.1, f entry.2))
    fun _ _ _ _ => rfl).symm

theorem sorted_perm (entries : List (String × α)) : (sorted entries).Perm (ofEntries entries) :=
  List.mergeSort_perm _ _

theorem get?_append (m other : Mapping α) (key : String) :
    get? (m ++ other) key = (get? m key).or (get? other key) := by
  induction m with
  | nil => rfl
  | cons entry rest ih =>
      obtain ⟨k, v⟩ := entry
      rw [List.cons_append, get?_cons, get?_cons, ih]
      split
      · rfl
      · rfl

theorem get?_map (f : α → β) (m : Mapping α) (key : String) :
    get? (m.map fun entry => (entry.1, f entry.2)) key = (get? m key).map f := by
  induction m with
  | nil => rfl
  | cons entry rest ih =>
      rw [List.map_cons, get?_cons, get?_cons, ih]
      split
      · rfl
      · rfl

/-- The order of entries does not matter where no key occurs twice. -/
theorem get?_of_perm {m m' : Mapping α} (h : m.Perm m') (distinct : Distinct m') (key : String) :
    get? m key = get? m' key := by
  have distinct' : Distinct m := ((h.map Prod.fst).nodup_iff).mpr distinct
  cases found : get? m' key with
  | some v => exact get?_of_mem distinct' (h.symm.subset (mem_of_get? found))
  | none =>
      cases found' : get? m key with
      | none => rfl
      | some v =>
          rw [get?_of_mem distinct (h.subset (mem_of_get? found'))] at found
          cases found

/-- **The last value of a key counts.** -/
theorem get?_ofEntries (entries : List (String × α)) (key : String) :
    get? (ofEntries entries) key = get? entries.reverse key := by
  have inserted (m : Mapping α) :
      get? (entries.foldl (fun m entry => insert m entry.1 entry.2) m) key =
        (get? entries.reverse key).or (get? m key) := by
    induction entries generalizing m with
    | nil => rfl
    | cons entry rest ih =>
        rw [List.foldl_cons, ih, get?_insert, List.reverse_cons, get?_append, get?_cons, get?_nil,
          Option.or_assoc]
        split
        · rfl
        · rfl
  exact (inserted []).trans Option.or_none

theorem get?_sorted (entries : List (String × α)) (key : String) :
    get? (sorted entries) key = get? entries.reverse key :=
  (get?_of_perm (sorted_perm entries) (distinct_ofEntries entries) key).trans (get?_ofEntries entries key)

end Mapping

/-! ## Through a tree -/

namespace Json

mutual

/-- The same data in a tree that holds the members of objects by their keys, in the order of these. -/
def inKeyOrder : Json → Json
  | null => null
  | bool b => bool b
  | int n => int n
  | real x => real x
  | text s => text s
  | array items => array (itemsInKeyOrder items)
  | object members => object (Mapping.sorted (membersInKeyOrder members))

def itemsInKeyOrder : List Json → List Json
  | [] => []
  | j :: rest => j.inKeyOrder :: itemsInKeyOrder rest

def membersInKeyOrder : List (String × Json) → List (String × Json)
  | [] => []
  | (k, j) :: rest => (k, j.inKeyOrder) :: membersInKeyOrder rest

end

theorem itemsInKeyOrder_eq_map (items : List Json) : itemsInKeyOrder items = items.map inKeyOrder := by
  induction items with
  | nil => rw [itemsInKeyOrder, List.map_nil]
  | cons j items ih => rw [itemsInKeyOrder, ih, List.map_cons]

theorem membersInKeyOrder_eq_map (members : List (String × Json)) :
    membersInKeyOrder members = members.map fun member => (member.1, inKeyOrder member.2) := by
  induction members with
  | nil => rw [membersInKeyOrder, List.map_nil]
  | cons member members ih => rw [membersInKeyOrder, ih, List.map_cons]

end Json

namespace Value

/-- Sorting the members and converting the tree can be done in one go. -/
theorem ofJson_inKeyOrder (j : Json) : ofJson j.inKeyOrder = ofSorted j := by
  induction j with
  | null | bool b | int n | real x | text s => rw [Json.inKeyOrder, ofJson, ofSorted]
  | array items ih =>
      rw [Json.inKeyOrder, ofJson, ofSorted, Json.itemsInKeyOrder_eq_map, ofJsonItems_eq_map,
        ofSortedItems_eq_map, List.map_map]
      exact congrArg list (List.map_congr_left ih)
  | object members ih =>
      have distinct : Mapping.Distinct (ofJsonMembers (Mapping.sorted (Json.membersInKeyOrder members))) := by
        rw [ofJsonMembers_eq_map]
        exact ((Mapping.inOrder_sorted _).map ofJson).1
      have each : (Json.membersInKeyOrder members).map (fun member => (member.1, ofJson member.2)) =
          ofSortedMembers members := by
        rw [Json.membersInKeyOrder_eq_map, ofSortedMembers_eq_map, List.map_map]
        exact List.map_congr_left fun member hmember => congrArg (member.1, ·) (ih member hmember)
      rw [Json.inKeyOrder, ofJson, ofSorted, Mapping.ofEntries_of_distinct distinct, ofJsonMembers_eq_map,
        ← Mapping.sorted_map, each]

/-! ## Directly -/

end Value

/-- The forms of values, in the order in which they are tried. -/
def Kind.all : List Kind :=
  [.null, .boolean, .integer, .real, .text, .list, .mapping]

namespace Value

mutual

/-- What a form of values makes of data, if it takes it. An integer could be a real as well. -/
def claim? : Kind → Json → Option Value
  | .null, .null => some null
  | .boolean, .bool b => some (bool b)
  | .integer, .int n => some (int n)
  | .real, .int n => some (real (nearestReal n))
  | .real, .real x => some (real x)
  | .text, .text s => some (text s)
  | .list, .array items => (decodeItems? items).map list
  | .mapping, .object members =>
      (decodeMembers? members).map fun entries => mapping (Mapping.ofEntries entries)
  | _, _ => none

/-- The values of elements, each in the first form that takes it. -/
def decodeItems? : List Json → Option (List Value)
  | [] => some []
  | j :: rest => do
      let v ← Kind.all.findSome? fun kind => claim? kind j
      let others ← decodeItems? rest
      return v :: others

/-- The entries of members, each in the first form that takes it. -/
def decodeMembers? : List (String × Json) → Option (List (String × Value))
  | [] => some []
  | (k, j) :: rest => do
      let v ← Kind.all.findSome? fun kind => claim? kind j
      let others ← decodeMembers? rest
      return (k, v) :: others

end

/-- The value of data in the first form that takes it. -/
def decode? (j : Json) : Option Value :=
  Kind.all.findSome? fun kind => claim? kind j

theorem decodeItems?_eq {items : List Json} (h : ∀ j ∈ items, decode? j = some (ofJson j)) :
    decodeItems? items = some (ofJsonItems items) := by
  induction items with
  | nil => rw [decodeItems?, ofJsonItems]
  | cons j rest ih =>
      obtain ⟨first, others⟩ := List.forall_mem_cons.mp h
      rw [decode?] at first
      rw [decodeItems?, first, ih others, ofJsonItems]
      rfl

theorem decodeMembers?_eq {members : List (String × Json)}
    (h : ∀ member ∈ members, decode? member.2 = some (ofJson member.2)) :
    decodeMembers? members = some (ofJsonMembers members) := by
  induction members with
  | nil => rw [decodeMembers?, ofJsonMembers]
  | cons member rest ih =>
      obtain ⟨first, others⟩ := List.forall_mem_cons.mp h
      rw [decode?] at first
      rw [decodeMembers?, first, ih others, ofJsonMembers]
      rfl

/-- **Some form of values takes the data, and the first one that does is the one it was meant for.** -/
theorem decode?_eq (j : Json) : decode? j = some (ofJson j) := by
  induction j with
  | null | bool b | int n | real x | text s => simp [decode?, Kind.all, claim?, ofJson]
  | array items ih => simp [decode?, Kind.all, claim?, ofJson, decodeItems?_eq ih]
  | object members ih => simp [decode?, Kind.all, claim?, ofJson, decodeMembers?_eq ih]

/-! ## Agreement -/

/-- The same value, but for the order of entries in its mappings and in all mappings in them. -/
inductive Reordered : Value → Value → Prop
  | atom {v : Value} : v.IsAtom → Reordered v v
  | list {items items' : List Value} : List.Forall₂ Reordered items items' →
      Reordered (list items) (list items')
  | mapping {m m' order : Mapping Value} : m.Perm order → order.map Prod.fst = m'.map Prod.fst →
      List.Forall₂ Reordered (order.map Prod.snd) (m'.map Prod.snd) →
      Reordered (mapping m) (mapping m')

/-- Two mappings made of the same entries, whose values are found in two ways. -/
theorem reordered_mapping {α : Type} {m : Mapping Value} {entries : Mapping α} {f g : α → Value}
    (order : m.Perm (entries.map fun entry => (entry.1, f entry.2)))
    (h : ∀ entry ∈ entries, Reordered (f entry.2) (g entry.2)) :
    Reordered (mapping m) (mapping (entries.map fun entry => (entry.1, g entry.2))) := by
  refine .mapping order ?_ ?_
  · rw [List.map_map, List.map_map]
    rfl
  · rw [List.map_map, List.map_map, List.forall₂_map_left_iff, List.forall₂_map_right_iff,
      List.forall₂_same]
    exact h

theorem reordered_list {α : Type} {items : List α} {f g : α → Value}
    (h : ∀ x ∈ items, Reordered (f x) (g x)) : Reordered (list (items.map f)) (list (items.map g)) := by
  refine .list ?_
  rw [List.forall₂_map_left_iff, List.forall₂_map_right_iff, List.forall₂_same]
  exact h

/-- **Through a tree and directly, the same value is read**, but for the order of entries. -/
theorem reordered_ofSorted_ofJson (j : Json) : Reordered (ofSorted j) (ofJson j) := by
  induction j with
  | null | bool b | int n | real x | text s =>
      rw [ofSorted, ofJson]
      exact .atom trivial
  | array items ih =>
      rw [ofSorted, ofJson, ofSortedItems_eq_map, ofJsonItems_eq_map]
      exact reordered_list ih
  | object members ih =>
      rw [ofSorted, ofJson, ofSortedMembers_eq_map, ofJsonMembers_eq_map, Mapping.ofEntries_map]
      refine reordered_mapping ?_ fun member hmember => ih member (Mapping.mem_of_mem_ofEntries hmember)
      rw [← Mapping.ofEntries_map]
      exact Mapping.sorted_perm _

/-- **A value without reals comes back from its tree**, but for the order of entries. -/
theorem reordered_toSorted {v : Value} (hkeys : v.Keyed) (hreal : v.RealFree) :
    Reordered (ofSorted v.toSorted) v := by
  induction v with
  | null | bool b | int n | text s =>
      rw [toSorted, ofSorted]
      exact .atom trivial
  | real x => exact absurd rfl (hreal (real x) List.mem_cons_self)
  | list items ih =>
      rw [keyed_list_iff] at hkeys
      rw [realFree_list_iff] at hreal
      rw [toSorted, ofSorted, ofSortedItems_eq_map, toSortedItems_eq_map, List.map_map]
      have back := reordered_list (f := ofSorted ∘ toSorted) (g := id) fun v hv =>
        ih v hv (hkeys v hv) (hreal v hv)
      rwa [List.map_id] at back
  | mapping m ih =>
      rw [keyed_mapping_iff] at hkeys
      rw [realFree_mapping_iff] at hreal
      -- reading finds the members sorted, and sorting them again changes nothing
      have twice : Mapping.sorted (ofSortedMembers (Mapping.sorted (toSortedMembers m))) =
          Mapping.sorted (m.map fun entry => (entry.1, ofSorted entry.2.toSorted)) := by
        rw [ofSortedMembers_eq_map, ← Mapping.sorted_map,
          Mapping.sorted_of_inOrder (Mapping.inOrder_sorted _), toSortedMembers_eq_map, List.map_map]
        rfl
      have distinct : Mapping.Distinct (m.map fun entry => (entry.1, ofSorted entry.2.toSorted)) := by
        unfold Mapping.Distinct
        rw [List.map_map]
        exact hkeys.1
      have order := Mapping.sorted_perm (m.map fun entry => (entry.1, ofSorted entry.2.toSorted))
      rw [Mapping.ofEntries_of_distinct distinct] at order
      rw [toSorted, ofSorted, twice]
      have back := reordered_mapping (f := fun v => ofSorted v.toSorted) (g := id) order fun entry hentry =>
        ih entry hentry (hkeys.2 entry hentry) (hreal entry hentry)
      rwa [show m.map (fun entry => (entry.1, id entry.2)) = m from List.map_id m] at back

/-! ## The equality of the language -/

/-- A related element, with what is known of both. -/
theorem forall₂_exists_of_mem {α β : Type} {R : α → β → Prop} {xs : List α} {ys : List β}
    (h : List.Forall₂ R xs ys) {x : α} (hx : x ∈ xs) : ∃ y ∈ ys, R x y := by
  induction h with
  | nil => cases hx
  | cons first _ ih =>
      rcases List.mem_cons.mp hx with rfl | later
      · exact ⟨_, List.mem_cons_self, first⟩
      · obtain ⟨y, hy, related⟩ := ih later
        exact ⟨y, List.mem_cons_of_mem _ hy, related⟩

/-- Entries with the same keys and related values. -/
theorem forall₂_entries {R : Value → Value → Prop} {m m' : Mapping Value}
    (hkeys : m.map Prod.fst = m'.map Prod.fst)
    (hvalues : List.Forall₂ R (m.map Prod.snd) (m'.map Prod.snd)) :
    List.Forall₂ (fun a b => a.1 = b.1 ∧ R a.2 b.2) m m' := by
  induction m generalizing m' with
  | nil =>
      cases m' with
      | nil => exact .nil
      | cons _ _ => cases hkeys
  | cons entry rest ih =>
      cases m' with
      | nil => cases hkeys
      | cons entry' rest' =>
          obtain ⟨key, keys⟩ := List.cons.inj hkeys
          obtain ⟨value, values⟩ := List.forall₂_cons.mp hvalues
          exact .cons ⟨key, value⟩ (ih keys values)

/-- **Values that differ in the order of entries only are equal**, if no part of them is a NaN. -/
theorem Reordered.beq {v w : Value} (h : Reordered v w) (hkeys : w.Keyed) (hnan : w.NanFree) :
    (v == w) = true := by
  induction v generalizing w with
  | null | bool b | int n | real x | text s =>
      cases h
      exact beq_self hkeys hnan
  | list items ih =>
      cases h with
      | atom collection => exact collection.elim
      | @list _ items' related =>
          rw [keyed_list_iff] at hkeys
          rw [nanFree_list_iff] at hnan
          refine beqList_iff.mpr ?_
          induction related with
          | nil => exact .nil
          | cons first _ rest =>
              rw [List.forall_mem_cons] at ih hkeys hnan
              exact .cons (ih.1 first hkeys.1 hnan.1) (rest ih.2 hkeys.2 hnan.2)
  | mapping m ih =>
      cases h with
      | atom collection => exact collection.elim
      | @mapping _ m' order perm keys values =>
          rw [keyed_mapping_iff] at hkeys
          rw [nanFree_mapping_iff] at hnan
          have related := forall₂_entries keys values
          have size : m.length = m'.length := perm.length_eq.trans related.length_eq
          refine (Bool.and_eq_true _ _).mpr ⟨by rw [size]; exact beq_self_eq_true _, ?_⟩
          refine beqEntries_iff.mpr fun entry hentry => ?_
          obtain ⟨entry', hentry', same, value⟩ := forall₂_exists_of_mem related (perm.subset hentry)
          refine ⟨entry'.2, ?_, ih entry hentry value (hkeys.2 _ hentry') (hnan _ hentry')⟩
          rw [same]
          exact Mapping.get?_of_mem hkeys.1 hentry'

theorem keyed_ofJson (j : Json) : (ofJson j).Keyed := by
  induction j with
  | null | bool b | int n | real x | text s =>
      rw [ofJson]
      exact keyed_of_isAtom trivial
  | array items ih =>
      rw [ofJson, keyed_list_iff, ofJsonItems_eq_map, List.forall_mem_map]
      exact ih
  | object members ih =>
      rw [ofJson, keyed_mapping_iff, ofJsonMembers_eq_map]
      refine ⟨Mapping.distinct_ofEntries _, fun entry hentry => ?_⟩
      obtain ⟨member, hmember, rfl⟩ := List.mem_map.mp (Mapping.mem_of_mem_ofEntries hentry)
      exact ih member hmember

theorem realFree_ofJson {j : Json} (h : j.isRealFree = true) : (ofJson j).RealFree := by
  induction j with
  | null | bool b | int n | text s =>
      rw [ofJson]
      exact List.forall_mem_singleton.mpr Kind.noConfusion
  | real x => cases h
  | array items ih =>
      rw [Json.isRealFree_array_iff] at h
      rw [ofJson, realFree_list_iff, ofJsonItems_eq_map, List.forall_mem_map]
      exact fun j hj => ih j hj (h j hj)
  | object members ih =>
      rw [Json.isRealFree_object_iff] at h
      rw [ofJson, realFree_mapping_iff, ofJsonMembers_eq_map]
      intro entry hentry
      obtain ⟨member, hmember, rfl⟩ := List.mem_map.mp (Mapping.mem_of_mem_ofEntries hentry)
      exact ih member hmember (h member hmember)

/-- A NaN is a real. -/
theorem RealFree.nanFree {v : Value} (h : v.RealFree) : v.NanFree := by
  intro part hpart
  cases part with
  | null | bool b | int n | text s | list items | mapping m => rfl
  | real x => exact absurd rfl (h (real x) hpart)

/-- **The two ways to read data agree.** Of any text, the tree that holds members by their keys gives a value
exactly if trying the forms of values gives one, and the two values differ in the order of entries only. They
are equal where no number is a real. Of a key that is written again the last value counts in both ways, at
any depth. And a value without reals comes back from its tree. -/
theorem json_readers_agree :
    (∀ s : String, Option.Rel Reordered ((Json.parse? s).map fun j => ofJson j.inKeyOrder)
      ((Json.parse? s).bind decode?)) ∧
    (∀ j : Json, ofJson j.inKeyOrder = ofSorted j ∧ decode? j = some (ofJson j) ∧
      (j.isRealFree = true → (ofSorted j == ofJson j) = true)) ∧
    (∀ (members : List (String × Json)) (key : String),
      Mapping.get? (ofSorted (.object members)).entries key =
        (Mapping.get? members.reverse key).map ofSorted ∧
      Mapping.get? (ofJson (.object members)).entries key =
        (Mapping.get? members.reverse key).map ofJson) ∧
    ∀ v : Value, v.Keyed → v.RealFree →
      Reordered (ofSorted v.toSorted) v ∧ (ofSorted v.toSorted == v) = true := by
  refine ⟨fun s => ?_, fun j => ⟨ofJson_inKeyOrder j, decode?_eq j, fun h => ?_⟩,
    fun members key => ⟨?_, ?_⟩, fun v hkeys hreal => ?_⟩
  · cases Json.parse? s with
    | none => exact .none
    | some j =>
        rw [Option.map_some, Option.bind_some, ofJson_inKeyOrder, decode?_eq]
        exact .some (reordered_ofSorted_ofJson j)
  · exact (reordered_ofSorted_ofJson j).beq (keyed_ofJson j) (realFree_ofJson h).nanFree
  · rw [ofSorted, ofSortedMembers_eq_map]
    exact (Mapping.get?_sorted _ key).trans (by rw [← List.map_reverse, Mapping.get?_map])
  · rw [ofJson, ofJsonMembers_eq_map]
    exact (Mapping.get?_ofEntries _ key).trans (by rw [← List.map_reverse, Mapping.get?_map])
  · have back := reordered_toSorted hkeys hreal
    exact ⟨back, back.beq hkeys hreal.nanFree⟩

/-- Members out of order, one of them written again, with an object in them. -/
def unordered : Json :=
  .object [("b", .int 1), ("a", .array [.null, .object []]),
    ("b", .object [("z", .bool true), ("c", .text "")])]

/-- The order of entries does differ, and nothing else does. -/
theorem unordered_agrees :
    Mapping.InOrder (ofSorted unordered).entries ∧ ¬ Mapping.InOrder (ofJson unordered).entries ∧
      unordered.isRealFree = true ∧
      (ofSorted unordered == ofJson unordered) = true ∧
      (ofJson unordered).Keyed ∧ (ofJson unordered).RealFree ∧
      Reordered (ofSorted (ofJson unordered).toSorted) (ofJson unordered) :=
  have plain : unordered.isRealFree = true := by decide +kernel
  have keyed : (ofJson unordered).Keyed := by decide +kernel
  have real : (ofJson unordered).RealFree := by decide +kernel
  ⟨Mapping.inOrder_sorted _, by decide +kernel, plain, (json_readers_agree.2.1 unordered).2.2 plain, keyed, real,
    (json_readers_agree.2.2.2 (ofJson unordered) keyed real).1⟩

end Value

end Fiction
