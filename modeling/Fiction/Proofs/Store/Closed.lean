import Fiction.Proofs.Expr.Pieces
import Fiction.Proofs.Value.Closed
import Fiction.Scope

/-!
# Fiction.Proofs.Store.Closed

**What stores hold and how reading and writing them fails.** A closed property of values that the
variables have is kept by all that is written, also when it fails, and no operation on a store fails as
broken markup does.

* `editIn_closed` is the step along a path. `set_closed`, `update_closed` and `remove_closed` are
  instances of it.
* `Scope.resolve_closed` is the result for names, which may also stand for a binding or an automatic
  variable.
-/

namespace Fiction

/-- No key is repeated in the variables. -/
def Store.Keyed (s : Store) : Prop :=
  s.toValue.Keyed

instance (s : Store) : Decidable s.Keyed :=
  inferInstanceAs (Decidable s.toValue.Keyed)

/-- A text that is no path is not broken markup. -/
theorem Path.parse_quiet (s : String) : Outcome.All (fun _ => True) (parse s) := by
  cases h : parse s with
  | ok path => trivial
  | error cause => exact isBrokenMarkup_of_parse h

variable {good : Value → Prop} (closed : Value.Closed good)

include closed

/-! ## Stores -/

/-- What a path leads to inside a value. -/
theorem Value.descend_closed {path : Path} {v : Value} (h : good v) (depth : Nat)
    (segments : List String) : Outcome.All good (v.descend path depth segments) := by
  induction segments generalizing v depth with
  | nil => exact h
  | cons segment rest ih =>
      cases v with
      | mapping m =>
          rw [descend]
          split
          · next found => exact ih (closed.of_get? h found) (depth + 1)
          · exact rfl
      | null | bool b | int n | real x | text s | list items => exact rfl

namespace Store

variable {α : Type} {s : Store} {p : Path} {v : Value}

theorem get_closed (h : good s.toValue) (p : Path) : Outcome.All good (s.get p) := by
  unfold get
  split
  · next found => exact Value.descend_closed closed (closed.of_get? h found) 1 p.tail
  · exact rfl

/-- What holds at the end of a path holds of the whole way: the mappings there only have an entry
written. -/
theorem editIn_closed {P : α → Prop} {path : Path} {create : Bool}
    {edit : String → Mapping Value → Outcome α × Mapping Value}
    (hedit : ∀ key m, good (.mapping m) →
      Outcome.All P (edit key m).1 ∧ good (.mapping (edit key m).2))
    {m : Mapping Value} (hm : good (.mapping m)) (depth : Nat) (key : String) (rest : List String) :
    Outcome.All P (editIn path create edit depth key rest m).1 ∧
      good (.mapping (editIn path create edit depth key rest m).2) := by
  induction rest generalizing depth key m with
  | nil => exact hedit key m hm
  | cons next rest ih =>
      have prepared : good (.mapping
          (if create && !Mapping.contains m key then Mapping.insert m key (.mapping []) else m)) := by
        split
        · exact closed.insert hm closed.empty key
        · exact hm
      unfold editIn
      dsimp only
      split
      · next found =>
          obtain ⟨result, inner⟩ := ih (closed.of_get? prepared found) (depth + 1) next
          exact ⟨result, closed.insert prepared inner key⟩
      · exact ⟨rfl, prepared⟩
      · exact ⟨rfl, prepared⟩

/-- Writing a value makes the mappings on its way, if they are not there, from nothing. -/
theorem set_closed (h : good s.toValue) (hv : good v) :
    Outcome.All (fun _ => True) (s.set p v).1 ∧ good (s.set p v).2.toValue := by
  refine editIn_closed closed (fun key m hm => ?_) h 0 p.head p.tail
  exact ⟨trivial, closed.insert hm hv key⟩

/-- A value that is computed from the old one. If that fails the store stays as it is. -/
theorem update_closed {f : Value → Outcome Value} (h : good s.toValue)
    (hf : ∀ v, good v → Outcome.All good (f v)) :
    Outcome.All good (s.update p f).1 ∧ good (s.update p f).2.toValue := by
  refine editIn_closed closed (fun key m hm => ?_) h 0 p.head p.tail
  split
  · next v found =>
      have computed := hf v (closed.of_get? hm found)
      split
      · next result =>
          have hw := computed.of_ok result
          exact ⟨hw, closed.insert hm hw key⟩
      · next result => exact ⟨computed.of_error result, hm⟩
  · exact ⟨rfl, hm⟩

theorem inverse_closed (v : Value) : Outcome.All good (inverse v) := by
  unfold inverse
  split
  · exact closed.atom trivial
  · split
    · exact closed.atom trivial
    · exact rfl
  · exact closed.atom trivial
  · exact rfl

theorem remove_closed (h : good s.toValue) :
    Outcome.All (fun _ => True) (s.remove p).1 ∧ good (s.remove p).2.toValue := by
  refine editIn_closed closed (fun key m hm => ?_) h 0 p.head p.tail
  exact ⟨trivial, closed.filter hm _⟩

end Store

omit closed

/-! ## Scopes -/

/-- What names are looked up in has a property. -/
structure Scope.All (good : Value → Prop) (s : Scope) : Prop where
  context : ∀ v ∈ s.surroundings.context, good v
  visited : good (.mapping s.surroundings.visited)
  bindings : ∀ frame ∈ s.bindings, good (.mapping frame)
  locals : good s.locals.toValue

include closed

/-- The innermost binding of a name. -/
theorem Scope.binding?_closed {s : Scope} (h : s.All good) {name : String} {v : Value}
    (hv : s.binding? name = some v) : good v := by
  obtain ⟨frame, hframe, found⟩ := List.exists_of_findSome?_eq_some hv
  exact closed.of_get? (h.bindings frame hframe) found

theorem Scope.automatic?_closed {s : Scope} (h : s.All good) {name : String} {v : Value}
    (hv : s.surroundings.automatic? name = some v) : good v := by
  unfold Surroundings.automatic? at hv
  split at hv
  · cases hv
    exact closed.list.mpr h.context
  · cases hv
    split
    · exact closed.atom trivial
    · exact closed.atom trivial
  · cases hv
    exact closed.atom trivial
  · cases hv
    exact closed.atom trivial
  · cases hv
    exact h.visited
  · cases hv
    exact closed.atom trivial
  · cases hv

theorem Scope.resolve_closed {s : Scope} {globals : Store} (h : s.All good)
    (hglobals : good globals.toValue) (path : Path) :
    Outcome.All good (s.resolve globals path) := by
  unfold Scope.resolve
  split
  · split
    · next found =>
        exact Value.descend_closed closed (Scope.binding?_closed closed h found) 1 path.tail
    · exact rfl
  · split
    · next found =>
        exact Value.descend_closed closed (Scope.automatic?_closed closed h found) 1 path.tail
    · split
      · exact Store.get_closed closed h.locals path
      · exact Store.get_closed closed hglobals path

end Fiction
