import Fiction.Proofs.Expansion.Keeps
import Fiction.Proofs.Store.Tree

/-!
# Fiction.Proofs.Expansion.Variables

**Reading and writing agree on where a variable lives.** Both find out for themselves: reading goes
through the bindings, the automatic variables and the stores until something is found, and writing first
asks whether the name may be written at all.

* `Surroundings.isSome_automatic?` and `Scope.resolve_of_writable`: what may be written is read from the
  store that it is written to.
* `Scope.resolve_congr`: reading a path looks at no other store than the one it belongs to.
* `Expansion.reads_see_writes` puts this together with the laws of a store.
-/

namespace Fiction

/-- The names with an automatic value are those that are listed. -/
theorem Surroundings.isSome_automatic? (s : Surroundings) (name : String) :
    (s.automatic? name).isSome = isAutomatic name := by
  unfold automatic?
  split
  case h_7 context prev node once visited status =>
    simp only [isAutomatic, automaticNames, Option.isSome_none, eq_comm (a := false),
      List.contains_eq_mem, decide_eq_false_iff_not, List.mem_cons, List.not_mem_nil, or_false, not_or]
    exact ⟨context, prev, node, once, visited, status⟩
  all_goals rfl

/-- Names of the node: longer than a byte, with an underscore in front and none at the end. -/
theorem Path.isLocal_iff {p : Path} : p.isLocal = true ↔
    1 < p.head.utf8ByteSize ∧ p.head.toList.head? = some '_' ∧
      p.head.toList.getLast? ≠ some '_' := by
  simp only [isLocal, Bool.and_eq_true, decide_eq_true_eq, beq_iff_eq, bne_iff_ne, and_assoc]

namespace Scope

variable {s : Scope} {locals globals : Store} {p : Path}

theorem isReadOnly_iff : isReadOnly p = true ↔ p.head ∈ automaticNames ∨ p.head ∈ bindingNames := by
  simp only [isReadOnly, isAutomatic, Bool.or_eq_true, List.contains_iff_mem]

/-! ## Reading -/

/-- What may be written is read from a store. -/
theorem resolve_of_writable (h : isReadOnly p = false) :
    s.resolve globals p = if p.isLocal then s.locals.get p else globals.get p := by
  obtain ⟨named, bound⟩ := Bool.or_eq_false_iff.mp h
  rw [← s.surroundings.isSome_automatic?, Option.isSome_eq_false_iff, Option.isNone_iff_eq_none]
    at named
  rw [resolve, bound, named, if_neg Bool.false_ne_true]

/-- What cannot be written is in no store. -/
theorem resolve_of_isReadOnly (h : isReadOnly p = true) (locals globals' : Store) :
    { s with locals }.resolve globals' p = s.resolve globals p := by
  unfold resolve
  split
  · rfl
  · next notBound =>
      have named : (s.surroundings.automatic? p.head).isSome = true := by
        rw [s.surroundings.isSome_automatic?]
        exact (Bool.or_eq_true_iff.mp h).resolve_right notBound
      obtain ⟨v, hv⟩ := Option.isSome_iff_exists.mp named
      dsimp only
      rw [hv]

/-- Reading looks only at the store that the path belongs to. -/
theorem resolve_congr {globals' : Store} (hlocal : p.isLocal = true → locals.get p = s.locals.get p)
    (hglobal : p.isLocal = false → globals'.get p = globals.get p) :
    { s with locals }.resolve globals' p = s.resolve globals p := by
  cases h : isReadOnly p with
  | true => exact resolve_of_isReadOnly h locals globals'
  | false =>
      rw [resolve_of_writable h, resolve_of_writable h]
      cases owner : p.isLocal with
      | true => exact hlocal owner
      | false => exact hglobal owner

/-! ## Writing -/

variable {α : Type} {f : Store → Outcome α × Store}

theorem write_of_isReadOnly (h : isReadOnly p = true) :
    write locals globals p f = (.error (.readOnly p.head), locals, globals) := by
  rw [write, if_pos h]

theorem write_of_isLocal (h : isReadOnly p = false) (owner : p.isLocal = true) :
    write locals globals p f = ((f locals).1, (f locals).2, globals) := by
  rw [write, if_neg (by simp [h]), if_pos owner]

theorem write_of_not_isLocal (h : isReadOnly p = false) (owner : p.isLocal = false) :
    write locals globals p f = ((f globals).1, locals, (f globals).2) := by
  rw [write, if_neg (by simp [h]), if_neg (by simp [owner])]

end Scope

namespace Expansion

variable {s : Setting} {before : Progress} {p : Path} {v : Value}

theorem runIn_write_of_isReadOnly (h : Scope.isReadOnly p = true) :
    (write p v).runIn s before = (.ok (.error (.readOnly p.head)), before) := by
  rw [write, runIn_change, Scope.write_of_isReadOnly h]
  rfl

theorem runIn_write_of_isLocal (h : Scope.isReadOnly p = false) (owner : p.isLocal = true) :
    (write p v).runIn s before =
      (.ok (before.scope.locals.set p v).1,
        before.withStores (before.scope.locals.set p v).2 before.world.store) := by
  rw [write, runIn_change, Scope.write_of_isLocal h owner]

theorem runIn_write_of_not_isLocal (h : Scope.isReadOnly p = false) (owner : p.isLocal = false) :
    (write p v).runIn s before =
      (.ok (before.world.store.set p v).1,
        before.withStores before.scope.locals (before.world.store.set p v).2) := by
  rw [write, runIn_change, Scope.write_of_not_isLocal h owner]

/-- Writing to a store never says that a name cannot be written. -/
theorem set_ne_readOnly (store : Store) (name : String) :
    (store.set p v).1 ≠ .error (.readOnly name) := by
  intro h
  obtain ⟨_, _, _, other⟩ := (Store.set_eq_error_iff.mp h).2
  cases other

/-- **Reading and writing agree on where a variable lives.** A name that cannot be written is one of
the automatic ones or of the bindings, and then nothing changes, as in any other failure. Otherwise
only the variables of the node change or only those of the story, as the name says. After a success
the value is read at its path, and paths that lead elsewhere are read as before, whether from a
binding, an automatic variable or either store. -/
theorem reads_see_writes (s : Setting) (before : Progress) (p : Path) (v : Value) :
    ∃ outcome after, (write p v).runIn s before = (.ok outcome, after) ∧
      (∀ name, outcome = .error (.readOnly name) ↔
        name = p.head ∧ (p.head ∈ automaticNames ∨ p.head ∈ bindingNames)) ∧
      (∀ cause, outcome = .error cause → after = before) ∧
      (1 < p.head.utf8ByteSize ∧ p.head.toList.head? = some '_' ∧
          p.head.toList.getLast? ≠ some '_' →
        ∃ locals, after = { before with scope := { before.scope with locals } }) ∧
      (¬ (1 < p.head.utf8ByteSize ∧ p.head.toList.head? = some '_' ∧
          p.head.toList.getLast? ≠ some '_') →
        ∃ store, after = { before with world := { before.world with store } }) ∧
      (outcome = .ok () →
        ((resolve p).runIn s after).1 = .ok (.ok v) ∧
        ∀ q : Path, ¬ q.segments <+: p.segments → ¬ p.segments <+: q.segments →
          ((resolve q).runIn s after).1 = ((resolve q).runIn s before).1) := by
  simp only [← Path.isLocal_iff, ← Scope.isReadOnly_iff, Bool.not_eq_true, runIn_resolve]
  cases h : Scope.isReadOnly p with
  | true =>
      refine ⟨_, _, runIn_write_of_isReadOnly h, ?_, fun _ _ => rfl, fun _ => ⟨_, rfl⟩,
        fun _ => ⟨_, rfl⟩, (fun failed => by cases failed)⟩
      intro name
      simp [eq_comm]
  | false =>
      cases owner : p.isLocal with
      | true =>
          refine ⟨_, _, runIn_write_of_isLocal h owner, ?_, ?_, fun _ => ⟨_, rfl⟩,
            (fun other => by cases other), fun written => ⟨?_, fun q notBefore notBehind => ?_⟩⟩
          · intro name
            simp [set_ne_readOnly]
          · intro cause failed
            rw [Store.set_of_error failed]
            rfl
          · rw [Scope.resolve_of_writable h, if_pos owner]
            exact congrArg _ (Store.get_set_self written)
          · refine congrArg _ (Scope.resolve_congr (fun _ => ?_) fun _ => rfl)
            exact Store.get_set_of_apart written ⟨notBehind, notBefore⟩
      | false =>
          refine ⟨_, _, runIn_write_of_not_isLocal h owner, ?_, ?_, (fun other => by cases other),
            fun _ => ⟨_, rfl⟩, fun written => ⟨?_, fun q notBefore notBehind => ?_⟩⟩
          · intro name
            simp [set_ne_readOnly]
          · intro cause failed
            rw [Store.set_of_error failed]
            rfl
          · rw [Scope.resolve_of_writable h, if_neg (by simp [owner])]
            exact congrArg _ (Store.get_set_self written)
          · refine congrArg _ (Scope.resolve_congr (fun _ => rfl) fun _ => ?_)
            exact Store.get_set_of_apart written ⟨notBehind, notBefore⟩

/-- In the middle of a map, with a variable of the node. -/
def insideMap : Progress :=
  { (default : Progress) with
    scope := ⟨default, [[("?", .int 7)]], ⟨[("_x", .bool true)]⟩⟩ }

/-- Names with underscores on both sides belong to the story, unless they are automatic. -/
theorem underscores_read_as_written :
    let after := ((write ⟨"_x_", ["a"]⟩ (.int 1)).runIn default insideMap).2
    (write ⟨"_status_", []⟩ .null).runIn default insideMap =
        (.ok (.error (.readOnly "_status_")), insideMap) ∧
      after.scope.locals.root = [("_x", .bool true)] ∧
      ((resolve ⟨"_x_", ["a"]⟩).runIn default after).1 = .ok (.ok (.int 1)) ∧
      ((resolve ⟨"_x", []⟩).runIn default after).1 = .ok (.ok (.bool true)) ∧
      ((resolve ⟨"?", []⟩).runIn default after).1 = .ok (.ok (.int 7)) := by
  obtain ⟨refused, same, run, readOnly, kept, -⟩ :=
    reads_see_writes default insideMap ⟨"_status_", []⟩ .null
  have cause : refused = .error (.readOnly "_status_") := (readOnly _).mpr ⟨rfl, by decide⟩
  obtain ⟨outcome, after, written, -, -, -, story, frame⟩ :=
    reads_see_writes default insideMap ⟨"_x_", ["a"]⟩ (.int 1)
  obtain ⟨store, hstore⟩ := story (by decide)
  have success : outcome = .ok () := by
    have ran := congrArg Prod.fst written
    exact (Except.ok.inj ran).symm
  obtain ⟨there, elsewhere⟩ := frame success
  have node := elsewhere ⟨"_x", []⟩ (by decide) (by decide)
  have bound := elsewhere ⟨"?", []⟩ (by decide) (by decide)
  rw [written]
  dsimp only
  refine ⟨?_, ?_, there, node, bound⟩
  · rw [run, cause, kept _ cause]
  · rw [hstore]
    rfl

end Expansion

end Fiction
