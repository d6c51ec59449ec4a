import Fiction.Operator.Apply
import Fiction.Path

/-!
# Fiction.Store

The state of a playthrough: a tree of mappings that paths address.

* `Store.get` reads the value at a path.
* `Store.set` writes one and creates the mappings on the way that are missing.
* `Store.add` and `Store.invert` update a value that is there, and `Store.remove` removes one.

Every segment but the last has to lead to a mapping. Stores are changed in place: an operation that
fails gives a cause and the store as it is then. `Store.edit` finds the mapping that an operation
works on.
-/

namespace Fiction

/-- The value below a value at some segments of a path, of which `depth` are already followed. -/
def Value.descend (path : Path) : (depth : Nat) → List String → Value → Outcome Value
  | _, [], v => .ok v
  | depth, s :: rest, .mapping m =>
      match Mapping.get? m s with
      | some v => Value.descend path (depth + 1) rest v
      | none => .error (.undefined path.text)
  | depth, _ :: _, v => .error (.notMapping path.text (path.upTo depth) v.kind)

/-- A tree of values. -/
structure Store where
  /-- The variables. -/
  root : Mapping Value
deriving Repr, Inhabited

namespace Store

/-- No variables. -/
def empty : Store := ⟨[]⟩

/-- The store with the entries of a mapping as variables; null is the empty store. -/
def ofValue : Value → Outcome Store
  | .mapping m => .ok ⟨m⟩
  | .null => .ok empty
  | v => .error (.expectedKind "mapping" v.kind)

/-- The variables as a mapping. -/
def toValue (s : Store) : Value := .mapping s.root

/-- Whether there are no variables. -/
def isEmpty (s : Store) : Bool := s.root.isEmpty

/-- The value at a path. -/
def get (s : Store) (path : Path) : Outcome Value :=
  match Mapping.get? s.root path.head with
  | some v => Value.descend path 1 path.tail v
  | none => .error (.undefined path.text)

/-- Whether there is a value at a path. -/
def contains (s : Store) (path : Path) : Bool :=
  (s.get path).toBool

/-- Edits the mapping that holds the last of some segments, which start with a key of the mapping that
`depth` segments lead to. If `create` holds, the mappings on the way that are missing are put in
first, and they stay if the edit fails. -/
def editIn {α : Type} (path : Path) (create : Bool)
    (edit : String → Mapping Value → Outcome α × Mapping Value) :
    (depth : Nat) → (key : String) → List String → Mapping Value → Outcome α × Mapping Value
  | _, key, [], m => edit key m
  | depth, key, next :: rest, m =>
      let m := if create && !Mapping.contains m key then Mapping.insert m key (.mapping []) else m
      match Mapping.get? m key with
      | some (.mapping inner) =>
          let (result, inner) := editIn path create edit (depth + 1) next rest inner
          (result, Mapping.insert m key (.mapping inner))
      | some v => (.error (.notMapping path.text (path.upTo (depth + 1)) v.kind), m)
      | none => (.error (.undefined path.text), m)

/-- Edits the mapping that holds the last segment of a path. -/
def edit {α : Type} (s : Store) (path : Path) (create : Bool)
    (f : String → Mapping Value → Outcome α × Mapping Value) : Outcome α × Store :=
  let (result, root) := editIn path create f 0 path.head path.tail s.root
  (result, ⟨root⟩)

/-- Writes a value at a path. -/
def set (s : Store) (path : Path) (value : Value) : Outcome Unit × Store :=
  s.edit path true fun key m => (.ok (), Mapping.insert m key value)

/-- Replaces the value at a path by what is computed from it, and returns the new value. -/
def update (s : Store) (path : Path) (f : Value → Outcome Value) : Outcome Value × Store :=
  s.edit path false fun key m =>
    match Mapping.get? m key with
    | some v =>
        match f v with
        | .ok v => (.ok v, Mapping.insert m key v)
        | .error cause => (.error cause, m)
    | none => (.error (.undefined path.text), m)

/-- Adds to the value at a path as `+` does. -/
def add (s : Store) (path : Path) (delta : Value) : Outcome Value × Store :=
  s.update path fun v => Operator.plus.apply v delta

/-- The opposite of a boolean or a number. -/
def inverse : Value → Outcome Value
  | .bool b => .ok (.bool !b)
  | .int n =>
      match Integer.neg? n with
      | some m => .ok (.int m)
      | none => .error (.invalidValue (.cannotInvert n.toInt))
  | .real x => .ok (.real (-x))
  | v => mismatch "invert" [v]

/-- Turns the value at a path into its opposite. -/
def invert (s : Store) (path : Path) : Outcome Value × Store :=
  s.update path inverse

/-- Removes the value at a path, and returns it if there was one. -/
def remove (s : Store) (path : Path) : Outcome (Option Value) × Store :=
  s.edit path false fun key m => (.ok (Mapping.get? m key), Mapping.erase m key)

end Store

end Fiction
