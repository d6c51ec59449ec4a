import Fiction.Proofs.Mapping
import Fiction.Store

/-!
# Fiction.Proofs.Store.Tree

**A store is a tree that paths address.** Reading and writing are two walks along a path, and the second
one may create mappings before it knows where the path ends.

* `Store.mapping?` is the tree: the mapping that some segments lead to, which is the root for none.
* `Edited R` says what an edit does that succeeds: the mapping at the end of the walk is changed as `R`
  allows, and the mappings on the way hold the new ones in place of the old ones. `edited_of_ok` is the
  step from the walk to the relation, and the other results are inductions over the relation:
  `Edited.getIn_of_apart` is the frame, `Edited.parent` and `Edited.ancestor` say what becomes of the
  mappings along the path.
* `editIn_of_error`: an edit that fails leaves everything as it was.
* `set_of_get` and `set_set` are the laws of writing again, and `set_at_path` collects what writing does.
-/

namespace Fiction

/-- A value that is no mapping stands where a path goes on. -/
def Cause.IsNotMapping (cause : Cause) : Prop :=
  ∃ path segment found, cause = .notMapping path segment found

theorem Cause.not_isNotMapping_undefined {path : String} :
    ¬ (Cause.undefined path).IsNotMapping := by
  rintro ⟨_, _, _, h⟩
  cases h

/-- Every path has a last segment. -/
theorem Path.exists_last (p : Path) : ∃ front last, front ++ [last] = p.head :: p.tail :=
  ⟨_, _, List.dropLast_concat_getLast (List.cons_ne_nil p.head p.tail)⟩

namespace Store

/-- Neither of two lists of segments starts with the other. -/
def Apart (xs ys : List String) : Prop :=
  ¬ xs <+: ys ∧ ¬ ys <+: xs

theorem Apart.of_cons {x : String} {xs ys : List String} (h : Apart (x :: xs) (x :: ys)) :
    Apart xs ys := by
  simpa [Apart, List.cons_prefix_cons] using h

/-- The mapping that holds the last of some segments was changed as `R` allows. -/
inductive Edited (R : String → Mapping Value → Mapping Value → Prop) (create : Bool) :
    String → List String → Mapping Value → Mapping Value → Prop
  | last {key m m'} : R key m m' → Edited R create key [] m m'
  | inside {key next rest m inner inner'} : Mapping.get? m key = some (.mapping inner) →
      Edited R create next rest inner inner' →
      Edited R create key (next :: rest) m (Mapping.insert m key (.mapping inner'))
  | created {key next rest m inner'} : create = true → Mapping.get? m key = none →
      Edited R create next rest [] inner' →
      Edited R create key (next :: rest) m (Mapping.insert m key (.mapping inner'))

variable {path q : Path} {depth : Nat} {key next : String} {rest : List String}
  {m m' inner : Mapping Value} {v : Value}

/-- What a walk can find at a key: nothing, a mapping, or a value where it ends. -/
theorem found_cases (m : Mapping Value) (key : String) :
    Mapping.get? m key = none ∨ (∃ inner, Mapping.get? m key = some (.mapping inner)) ∨
      ∃ v, Mapping.get? m key = some v ∧ v.kind ≠ .mapping := by
  cases h : Mapping.get? m key with
  | none => exact .inl rfl
  | some v =>
      cases v with
      | mapping inner => exact .inr (.inl ⟨inner, rfl⟩)
      | null | bool b | int n | real x | text s | list items =>
          exact .inr (.inr ⟨_, rfl, by simp [Value.kind]⟩)

/-! ## Reading -/

/-- The value at a key and the segments below it, in the mapping that `depth` segments lead to. -/
def getIn (path : Path) (depth : Nat) (key : String) (rest : List String) (m : Mapping Value) :
    Outcome Value :=
  match Mapping.get? m key with
  | some v => v.descend path (depth + 1) rest
  | none => .error (.undefined path.text)

theorem get_eq_getIn (s : Store) (p : Path) : s.get p = getIn p 0 p.head p.tail s.root := rfl

theorem getIn_missing (h : Mapping.get? m key = none) :
    getIn path depth key rest m = .error (.undefined path.text) := by
  rw [getIn, h]

theorem getIn_last (h : Mapping.get? m key = some v) : getIn path depth key [] m = .ok v := by
  rw [getIn, h]
  rfl

theorem getIn_inside (h : Mapping.get? m key = some (.mapping inner)) :
    getIn path depth key (next :: rest) m = getIn path (depth + 1) next rest inner := by
  rw [getIn, h]
  rfl

theorem getIn_blocked (h : Mapping.get? m key = some v) (hv : v.kind ≠ .mapping) :
    getIn path depth key (next :: rest) m =
      .error (.notMapping path.text (path.upTo (depth + 1)) v.kind) := by
  rw [getIn, h]
  cases v with
  | mapping inner => exact absurd rfl hv
  | null | bool b | int n | real x | text s | list items => rfl

/-- Where another key starts the path, what is written at a key does not count. -/
theorem getIn_insert_of_ne {other : String} (h : other ≠ key) :
    getIn path depth other rest (Mapping.insert m key v) = getIn path depth other rest m := by
  rw [getIn, getIn, Mapping.get?_insert, if_neg (Ne.symm h)]

theorem getIn_insert_mapping :
    getIn path depth key (next :: rest) (Mapping.insert m key (.mapping inner)) =
      getIn path (depth + 1) next rest inner :=
  getIn_inside (by rw [Mapping.get?_insert, if_pos rfl])

theorem getIn_congr (h : Mapping.get? m' key = Mapping.get? m key) :
    getIn path depth key rest m' = getIn path depth key rest m := by
  rw [getIn, getIn, h]

/-! ## The tree -/

/-- The mapping that segments lead to from a mapping. -/
def mappingIn? : List String → Mapping Value → Option (Mapping Value)
  | [], m => some m
  | key :: rest, m =>
      match Mapping.get? m key with
      | some (.mapping inner) => mappingIn? rest inner
      | _ => none

/-- The mapping that segments lead to. -/
def mapping? (s : Store) (segments : List String) : Option (Mapping Value) :=
  mappingIn? segments s.root

theorem mappingIn?_inside (h : Mapping.get? m key = some (.mapping inner)) :
    mappingIn? (key :: rest) m = mappingIn? rest inner := by
  rw [mappingIn?, h]

theorem mappingIn?_missing (h : Mapping.get? m key = none) : mappingIn? (key :: rest) m = none := by
  rw [mappingIn?, h]

theorem mappingIn?_blocked (h : Mapping.get? m key = some v) (hv : v.kind ≠ .mapping) :
    mappingIn? (key :: rest) m = none := by
  rw [mappingIn?, h]
  cases v with
  | mapping inner => exact absurd rfl hv
  | null | bool b | int n | real x | text s | list items => rfl

theorem mappingIn?_insert :
    mappingIn? (key :: rest) (Mapping.insert m key (.mapping inner)) = mappingIn? rest inner :=
  mappingIn?_inside (by rw [Mapping.get?_insert, if_pos rfl])

/-- From an empty mapping no segments lead anywhere. -/
theorem getD_mappingIn?_nil (segments : List String) : (mappingIn? segments []).getD [] = [] := by
  cases segments with
  | nil => rfl
  | cons key rest => rw [mappingIn?_missing rfl, Option.getD_none]

/-- Reading at a path is looking up its last segment where the others lead. -/
theorem getIn_of_mappingIn? {front : List String} {last : String}
    (hfront : front ++ [last] = key :: rest) (h : mappingIn? front m = some inner) :
    getIn path depth key rest m = getIn path depth last [] inner := by
  induction front generalizing depth key rest m with
  | nil =>
      cases hfront
      cases h
      rfl
  | cons first front ih =>
      rw [List.cons_append, List.cons.injEq] at hfront
      obtain ⟨rfl, rfl⟩ := hfront
      obtain ⟨second, others, split⟩ : ∃ second others, front ++ [last] = second :: others :=
        List.exists_cons_of_ne_nil (by simp)
      rcases found_cases m first with missing | ⟨below, found⟩ | ⟨v, found, hv⟩
      · rw [mappingIn?_missing missing] at h
        cases h
      · rw [mappingIn?_inside found] at h
        rw [split, getIn_inside found, ih split h]
        rfl
      · rw [mappingIn?_blocked found hv] at h
        cases h

/-- The mapping at a path is the value there. -/
theorem getIn_eq_mapping_iff :
    getIn path depth key rest m = .ok (.mapping inner) ↔ mappingIn? (key :: rest) m = some inner := by
  induction rest generalizing depth key m with
  | nil =>
      rcases found_cases m key with missing | ⟨below, found⟩ | ⟨v, found, hv⟩
      · simp [getIn_missing missing, mappingIn?_missing missing]
      · rw [getIn_last found, mappingIn?_inside found, mappingIn?]
        simp
      · rw [getIn_last found, mappingIn?_blocked found hv]
        refine ⟨fun h => ?_, fun h => by cases h⟩
        cases h
        exact absurd rfl hv
  | cons next rest ih =>
      rcases found_cases m key with missing | ⟨below, found⟩ | ⟨v, found, hv⟩
      · simp [getIn_missing missing, mappingIn?_missing missing]
      · rw [getIn_inside found, mappingIn?_inside found, ih]
      · simp [getIn_blocked found hv, mappingIn?_blocked found hv]

theorem get_eq_mapping_iff {s : Store} : s.get q = .ok (.mapping m) ↔ s.mapping? q.segments = some m :=
  getIn_eq_mapping_iff

/-! ## Editing -/

section

variable {α : Type} {create : Bool} {edit : String → Mapping Value → Outcome α × Mapping Value}

theorem editIn_inside (h : Mapping.get? m key = some (.mapping inner)) :
    editIn path create edit depth key (next :: rest) m =
      ((editIn path create edit (depth + 1) next rest inner).1,
        Mapping.insert m key (.mapping (editIn path create edit (depth + 1) next rest inner).2)) := by
  rw [editIn]
  simp [Mapping.contains, h]

/-- A mapping that is missing is put in and then filled, so it is as if it had been filled before. -/
theorem editIn_created (h : Mapping.get? m key = none) :
    editIn path true edit depth key (next :: rest) m =
      ((editIn path true edit (depth + 1) next rest []).1,
        Mapping.insert m key (.mapping (editIn path true edit (depth + 1) next rest []).2)) := by
  rw [editIn]
  simp [Mapping.contains, h, Mapping.get?_insert, Mapping.insert_insert]

theorem editIn_missing (h : Mapping.get? m key = none) :
    editIn path false edit depth key (next :: rest) m = (.error (.undefined path.text), m) := by
  rw [editIn]
  simp [h]

theorem editIn_blocked (h : Mapping.get? m key = some v) (hv : v.kind ≠ .mapping) :
    editIn path create edit depth key (next :: rest) m =
      (.error (.notMapping path.text (path.upTo (depth + 1)) v.kind), m) := by
  rw [editIn]
  simp only [Mapping.contains, h, Option.isSome_some, Bool.not_true, Bool.and_false,
    Bool.false_eq_true, if_false]
  cases v with
  | mapping inner => exact absurd rfl hv
  | null | bool b | int n | real x | text s | list items => rfl

/-- What an edit that succeeds does. -/
theorem edited_of_ok {a : α} (h : (editIn path create edit depth key rest m).1 = .ok a) :
    Edited (fun key m m' => edit key m = (.ok a, m')) create key rest m
      (editIn path create edit depth key rest m).2 := by
  induction rest generalizing depth key m with
  | nil => exact .last (Prod.ext h rfl)
  | cons next rest ih =>
      rcases found_cases m key with missing | ⟨inner, found⟩ | ⟨v, found, hv⟩
      · cases create with
        | true =>
            rw [editIn_created missing] at h ⊢
            exact .created rfl missing (ih h)
        | false =>
            rw [editIn_missing missing] at h
            cases h
      · rw [editIn_inside found] at h ⊢
        exact .inside found (ih h)
      · rw [editIn_blocked found hv] at h
        cases h

/-! ### Edits that fail -/

/-- If nothing can go wrong at the end of the path, an edit that creates what is missing fails where
reading finds that the path does not go on, and nowhere else. -/
theorem editIn_eq_error_iff (hedit : ∀ key m, ∃ a, (edit key m).1 = .ok a) {cause : Cause} :
    (editIn path true edit depth key rest m).1 = .error cause ↔
      getIn path depth key rest m = .error cause ∧ cause.IsNotMapping := by
  induction rest generalizing depth key m with
  | nil =>
      obtain ⟨a, ha⟩ := hedit key m
      rw [editIn, ha]
      constructor
      · intro h
        cases h
      rintro ⟨h, notMapping⟩
      cases found : Mapping.get? m key with
      | none =>
          rw [getIn_missing found] at h
          cases h
          exact absurd notMapping Cause.not_isNotMapping_undefined
      | some v =>
          rw [getIn_last found] at h
          cases h
  | cons next rest ih =>
      rcases found_cases m key with missing | ⟨inner, found⟩ | ⟨v, found, hv⟩
      · -- below a mapping that was just created everything is missing
        rw [editIn_created missing, ih, getIn_missing rfl, getIn_missing missing]
      · rw [editIn_inside found, ih, getIn_inside found]
      · rw [editIn_blocked found hv, getIn_blocked found hv]
        constructor
        · rintro ⟨⟩
          exact ⟨rfl, _, _, _, rfl⟩
        · rintro ⟨⟨⟩, -⟩
          rfl

/-- **An edit that fails leaves everything as it was**, if the change at the end does. Where mappings
are created on the way, the change must not fail, or they would stay. -/
theorem editIn_of_error (hedit : ∀ key m cause, (edit key m).1 = .error cause → (edit key m).2 = m)
    (hcreate : create = true → ∀ key m, ∃ a, (edit key m).1 = .ok a) {cause : Cause}
    (h : (editIn path create edit depth key rest m).1 = .error cause) :
    (editIn path create edit depth key rest m).2 = m := by
  induction rest generalizing depth key m with
  | nil => exact hedit key m cause h
  | cons next rest ih =>
      rcases found_cases m key with missing | ⟨inner, found⟩ | ⟨v, found, hv⟩
      · cases create with
        | true =>
            rw [editIn_created missing, editIn_eq_error_iff (hcreate rfl), getIn_missing rfl] at h
            obtain ⟨⟨⟩, notMapping⟩ := h
            exact absurd notMapping Cause.not_isNotMapping_undefined
        | false => rw [editIn_missing missing]
      · rw [editIn_inside found] at h ⊢
        rw [ih h, Mapping.insert_of_get? found]
      · rw [editIn_blocked found hv]

end

/-! ### Edits that succeed -/

section

variable {R : String → Mapping Value → Mapping Value → Prop} {create : Bool}

theorem Edited.mono {R' : String → Mapping Value → Mapping Value → Prop}
    (h : Edited R create key rest m m') (hR : ∀ key m m', R key m m' → R' key m m') :
    Edited R' create key rest m m' := by
  induction h with
  | last changed => exact .last (hR _ _ _ changed)
  | inside found _ ih => exact .inside found ih
  | created hcreate missing _ ih => exact .created hcreate missing ih

/-- **The frame.** Paths that lead elsewhere are read as before, if the change touches one key only. -/
theorem Edited.getIn_of_apart (h : Edited R create key rest m m')
    (hR : ∀ {key m m' other}, R key m m' → other ≠ key → Mapping.get? m' other = Mapping.get? m other)
    {other : String} {others : List String} (apart : Apart (key :: rest) (other :: others)) :
    getIn q depth other others m' = getIn q depth other others m := by
  induction h generalizing depth other others with
  | @last key m m' changed =>
      -- another path that starts with the key is an extension
      have differ : other ≠ key := by
        rintro rfl
        exact apart.1 (by simp)
      exact getIn_congr (hR changed differ)
  | @inside key next rest m inner inner' found _ ih =>
      by_cases same : other = key
      · subst same
        have behind := apart.of_cons
        cases others with
        | nil => exact absurd List.nil_prefix behind.2
        | cons second others => rw [getIn_insert_mapping, getIn_inside found, ih behind]
      · exact getIn_insert_of_ne same
  | @created key next rest m inner' _ missing _ ih =>
      by_cases same : other = key
      · subst same
        have behind := apart.of_cons
        cases others with
        | nil => exact absurd List.nil_prefix behind.2
        | cons second others =>
            rw [getIn_insert_mapping, ih behind, getIn_missing rfl, getIn_missing missing]
      · exact getIn_insert_of_ne same

/-- The mapping that holds the last segment is the one that was changed. What was missing counts as
empty. -/
theorem Edited.parent (h : Edited R create key rest m m') {front : List String} {last : String}
    (hfront : front ++ [last] = key :: rest) :
    ∃ new, mappingIn? front m' = some new ∧ R last ((mappingIn? front m).getD []) new := by
  induction h generalizing front with
  | last changed =>
      cases front with
      | nil =>
          cases hfront
          exact ⟨_, rfl, changed⟩
      | cons first front => simp at hfront
  | @inside key next rest m inner inner' found _ ih =>
      cases front with
      | nil => cases hfront
      | cons first front =>
          rw [List.cons_append, List.cons.injEq] at hfront
          obtain ⟨rfl, hfront⟩ := hfront
          rw [mappingIn?_inside found, mappingIn?_insert]
          exact ih hfront
  | @created key next rest m inner' _ missing _ ih =>
      cases front with
      | nil => cases hfront
      | cons first front =>
          rw [List.cons_append, List.cons.injEq] at hfront
          obtain ⟨rfl, hfront⟩ := hfront
          rw [mappingIn?_missing missing, Option.getD_none, mappingIn?_insert,
            ← getD_mappingIn?_nil front]
          exact ih hfront

/-- The mappings in front of that one hold a new mapping at the key where the path goes on. Unless
mappings are created, there was one before. -/
theorem Edited.ancestor (h : Edited R create key rest m m') {front : List String} {onward : String}
    (hfront : front ++ [onward] <+: key :: rest) (before : front ++ [onward] ≠ key :: rest) :
    (∃ below, mappingIn? front m' =
      some (Mapping.insert ((mappingIn? front m).getD []) onward (.mapping below))) ∧
    (create = false → Mapping.contains ((mappingIn? front m).getD []) onward = true) := by
  induction h generalizing front with
  | last changed =>
      exact absurd (hfront.eq_of_length_le (by simp)) before
  | @inside key next rest m inner inner' found _ ih =>
      cases front with
      | nil =>
          obtain ⟨rfl, -⟩ := List.cons_prefix_cons.mp hfront
          refine ⟨⟨inner', rfl⟩, fun _ => ?_⟩
          rw [mappingIn?, Option.getD_some, Mapping.contains, found, Option.isSome_some]
      | cons first front =>
          obtain ⟨rfl, behind⟩ := List.cons_prefix_cons.mp hfront
          rw [mappingIn?_inside found, mappingIn?_insert]
          exact ih behind fun same => before (congrArg (first :: ·) same)
  | @created key next rest m inner' hcreate missing _ ih =>
      cases front with
      | nil =>
          obtain ⟨rfl, -⟩ := List.cons_prefix_cons.mp hfront
          refine ⟨⟨inner', rfl⟩, fun kept => ?_⟩
          rw [hcreate] at kept
          cases kept
      | cons first front =>
          obtain ⟨rfl, behind⟩ := List.cons_prefix_cons.mp hfront
          rw [mappingIn?_missing missing, Option.getD_none, mappingIn?_insert,
            ← getD_mappingIn?_nil front]
          exact ih behind fun same => before (congrArg (first :: ·) same)

end

/-! ## Writing -/

/-- The change that writing makes at the end of a path. -/
def put (v : Value) (key : String) (m : Mapping Value) : Outcome Unit × Mapping Value :=
  (.ok (), Mapping.insert m key v)

variable {s : Store} {p : Path} {w : Value}

theorem set_eq (s : Store) (p : Path) (v : Value) :
    s.set p v = ((editIn p true (put v) 0 p.head p.tail s.root).1,
      ⟨(editIn p true (put v) 0 p.head p.tail s.root).2⟩) := rfl

theorem edited_of_set (h : (s.set p v).1 = .ok ()) :
    Edited (fun key m m' => m' = Mapping.insert m key v) true p.head p.tail s.root
      (s.set p v).2.root := by
  refine (edited_of_ok h).mono ?_
  rintro key m m' ⟨⟩
  rfl

theorem set_eq_error_iff {cause : Cause} :
    (s.set p v).1 = .error cause ↔ s.get p = .error cause ∧ cause.IsNotMapping :=
  editIn_eq_error_iff fun _ _ => ⟨(), rfl⟩

theorem set_of_error {cause : Cause} (h : (s.set p v).1 = .error cause) : (s.set p v).2 = s := by
  have root : (s.set p v).2.root = s.root :=
    editIn_of_error (fun _ _ _ failed => by cases failed) (fun _ _ _ => ⟨(), rfl⟩) h
  exact congrArg Store.mk root

/-- The mappings along the path get the key where it goes on, if they do not have it. -/
theorem mapping?_set (h : (s.set p v).1 = .ok ()) {front : List String} {onward : String}
    (hfront : front ++ [onward] <+: p.segments) :
    ∃ w, (s.set p v).2.mapping? front =
      some (Mapping.insert ((s.mapping? front).getD []) onward w) := by
  by_cases last : front ++ [onward] = p.segments
  · obtain ⟨new, hnew, rfl⟩ := (edited_of_set h).parent last
    exact ⟨v, hnew⟩
  · obtain ⟨⟨below, hbelow⟩, -⟩ := (edited_of_set h).ancestor hfront last
    exact ⟨_, hbelow⟩

theorem get_set_self (h : (s.set p v).1 = .ok ()) : (s.set p v).2.get p = .ok v := by
  obtain ⟨front, last, hfront⟩ := p.exists_last
  obtain ⟨new, hnew, rfl⟩ := (edited_of_set h).parent hfront
  rw [get_eq_getIn, getIn_of_mappingIn? hfront hnew]
  exact getIn_last (by rw [Mapping.get?_insert, if_pos rfl])

theorem get_set_of_apart (h : (s.set p v).1 = .ok ()) (apart : Apart p.segments q.segments) :
    (s.set p v).2.get q = s.get q := by
  refine (edited_of_set h).getIn_of_apart ?_ apart
  rintro key m m' other rfl differ
  rw [Mapping.get?_insert, if_neg (Ne.symm differ)]

/-- Before the end of the path there is a mapping everywhere. -/
theorem get_set_of_prefix (h : (s.set p v).1 = .ok ()) (hq : q.segments <+: p.segments)
    (proper : q ≠ p) : ∃ m, (s.set p v).2.get q = .ok (.mapping m) := by
  obtain ⟨behind, hbehind⟩ := hq
  cases behind with
  | nil =>
      rw [List.append_nil] at hbehind
      unfold Path.segments at hbehind
      obtain ⟨head, tail⟩ := q
      cases hbehind
      exact absurd rfl proper
  | cons onward others =>
      have hfront : q.segments ++ [onward] <+: p.segments := ⟨others, by simpa using hbehind⟩
      obtain ⟨w, hw⟩ := mapping?_set h hfront
      exact ⟨_, get_eq_mapping_iff.mpr hw⟩

/-! ### Writing again -/

theorem editIn_put_of_getIn (h : getIn path depth key rest m = .ok v) :
    editIn path true (put v) depth key rest m = (.ok (), m) := by
  induction rest generalizing depth key m with
  | nil =>
      cases found : Mapping.get? m key with
      | none =>
          rw [getIn_missing found] at h
          cases h
      | some w =>
          rw [getIn_last found] at h
          cases h
          rw [editIn, put, Mapping.insert_of_get? found]
  | cons next rest ih =>
      rcases found_cases m key with missing | ⟨inner, found⟩ | ⟨w, found, hw⟩
      · rw [getIn_missing missing] at h
        cases h
      · rw [getIn_inside found] at h
        rw [editIn_inside found, ih h, Mapping.insert_of_get? found]
      · rw [getIn_blocked found hw] at h
        cases h

theorem editIn_put_put (path : Path) (depth : Nat) (key : String) (rest : List String)
    (m : Mapping Value) (v w : Value) :
    editIn path true (put w) depth key rest (editIn path true (put v) depth key rest m).2 =
      editIn path true (put w) depth key rest m := by
  induction rest generalizing depth key m with
  | nil => rw [editIn, editIn, editIn, put, put, put, Mapping.insert_insert]
  | cons next rest ih =>
      have filled (inner : Mapping Value) :
          Mapping.get? (Mapping.insert m key (.mapping inner)) key = some (.mapping inner) := by
        rw [Mapping.get?_insert, if_pos rfl]
      rcases found_cases m key with missing | ⟨inner, found⟩ | ⟨u, found, hu⟩
      · rw [editIn_created missing, editIn_inside (filled _), ih, editIn_created missing,
          Mapping.insert_insert]
      · rw [editIn_inside found, editIn_inside (filled _), ih, editIn_inside found,
          Mapping.insert_insert]
      · rw [editIn_blocked found hu]

/-- Writing what is there changes nothing. -/
theorem set_of_get (h : s.get p = .ok v) : s.set p v = (.ok (), s) := by
  rw [set_eq, editIn_put_of_getIn h]

/-- Of two values written at a path the last one counts. -/
theorem set_set (s : Store) (p : Path) (v w : Value) : (s.set p v).2.set p w = s.set p w := by
  rw [set_eq, set_eq, set_eq, editIn_put_put p 0 p.head p.tail s.root v w]

/-- Where there is a value, another one can be written. -/
theorem set_ok_of_get (h : s.get p = .ok v) (w : Value) : (s.set p w).1 = .ok () := by
  cases written : (s.set p w).1 with
  | ok _ => rfl
  | error cause =>
      rw [(set_eq_error_iff.mp written).1] at h
      cases h

/-- **A store behaves as a tree that paths address.** Writing fails where reading finds that the path
does not go on, for the same cause, and then leaves the store as it was. Otherwise the value is there, all
in front of it are mappings, paths that lead elsewhere are read as before, and in the mappings along the
path the keys stay in their places, with a new key at the end. -/
theorem set_at_path (s : Store) (p : Path) (v : Value) :
    (∀ cause, (s.set p v).1 = .error cause ↔ s.get p = .error cause ∧ cause.IsNotMapping) ∧
    (∀ cause, (s.set p v).1 = .error cause → (s.set p v).2 = s) ∧
    ((s.set p v).1 = .ok () →
      (s.set p v).2.get p = .ok v ∧
      (∀ q : Path, q.segments <+: p.segments → q ≠ p →
        ∃ m, (s.set p v).2.get q = .ok (.mapping m)) ∧
      (∀ q : Path, ¬ q.segments <+: p.segments → ¬ p.segments <+: q.segments →
        (s.set p v).2.get q = s.get q) ∧
      ∀ front onward, front ++ [onward] <+: p.segments →
        ∃ new, (s.set p v).2.mapping? front = some new ∧
          let old := ((s.mapping? front).getD []).map Prod.fst
          new.map Prod.fst = if onward ∈ old then old else old ++ [onward]) := by
  refine ⟨fun cause => set_eq_error_iff, fun cause => set_of_error, fun h => ?_⟩
  refine ⟨get_set_self h, fun q => get_set_of_prefix h,
    fun q notBefore notBehind => get_set_of_apart h ⟨notBehind, notBefore⟩, ?_⟩
  intro front onward hfront
  obtain ⟨w, hw⟩ := mapping?_set h hfront
  refine ⟨_, hw, ?_⟩
  rw [Mapping.map_fst_insert]
  simp only [Mapping.contains_iff]

/-- A name has no parts, so nothing is written below it; in the purse there is room. -/
theorem set_below_name_and_purse :
    let s : Store := ⟨[("purse", .mapping [("gold", .int 1)]), ("name", .text "Ada")]⟩
    let keys := s.set ⟨"purse", ["keys", "old"]⟩ (.bool true)
    (s.set ⟨"name", ["first"]⟩ .null).2 = s ∧ keys.1 = .ok () ∧
      keys.2.get ⟨"purse", ["keys", "old"]⟩ = .ok (.bool true) ∧
      keys.2.get ⟨"purse", ["gold"]⟩ = s.get ⟨"purse", ["gold"]⟩ := by
  intro s keys
  have failed : (s.set ⟨"name", ["first"]⟩ .null).1 =
      .error (.notMapping "name.first" "name" .text) := by
    rfl
  have written : keys.1 = .ok () := rfl
  obtain ⟨there, -, frame, -⟩ := (set_at_path s ⟨"purse", ["keys", "old"]⟩ (.bool true)).2.2 written
  exact ⟨(set_at_path s _ _).2.1 _ failed, written, there, frame _ (by decide) (by decide)⟩

end Store

end Fiction
