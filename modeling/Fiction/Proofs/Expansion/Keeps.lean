import Fiction.Expansion.Dispatch
import Mathlib.Order.Defs.Unbundled

/-!
# Fiction.Proofs.Expansion.Keeps

Reasoning about computations that read a setting, work on a progress and may fail.

* The `runIn_...` equations say what the basic computations do.
* `Keeps R s x Q` says that `x` relates every progress to the one it ends in, **also when it
  fails**, and that what it returns satisfies `Q`. For a relation that is reflexive and transitive it
  is closed under everything that computations are built from.
-/

namespace Fiction.Expansion

variable {α β : Type} {s : Setting} {p : Progress}

/-! ## What the basic computations do -/

@[simp] theorem runIn_pure (a : α) : (pure a : Expansion α).runIn s p = (.ok a, p) := rfl

@[simp] theorem runIn_throw (fault : Fault) :
    (throw fault : Expansion α).runIn s p = (.error fault, p) := rfl

@[simp] theorem runIn_get : (get : Expansion Progress).runIn s p = (.ok p, p) := rfl

@[simp] theorem runIn_read : (read : Expansion Setting).runIn s p = (.ok s, p) := rfl

/-- A sequence runs its second part where the first one ended, unless that failed. -/
theorem runIn_bind (x : Expansion α) (f : α → Expansion β) :
    (x >>= f).runIn s p =
      match x.runIn s p with
      | (.ok a, q) => (f a).runIn s q
      | (.error fault, q) => (.error fault, q) := by
  have unfolded : (x >>= f).runIn s p =
      (ExceptT.bindCont (fun a => f a s) (x.runIn s p).1).run (x.runIn s p).2 := rfl
  rw [unfolded]
  rcases x.runIn s p with ⟨r, q⟩
  cases r with
  | ok a => rfl
  | error fault => rfl

/-- A sequence that succeeds is made up of two parts that do. -/
theorem exists_of_runIn_bind {q : Progress} {x : Expansion α} {f : α → Expansion β} {b : β}
    (h : (x >>= f).runIn s p = (.ok b, q)) :
    ∃ a r, x.runIn s p = (.ok a, r) ∧ (f a).runIn s r = (.ok b, q) := by
  rw [runIn_bind] at h
  rcases hx : x.runIn s p with ⟨result, r⟩
  rw [hx] at h
  cases result with
  | ok a => exact ⟨a, r, rfl, h⟩
  | error fault => cases h

/-- Computations are the same if they run in the same way everywhere. -/
theorem ext_runIn {x y : Expansion α} (h : ∀ s p, x.runIn s p = y.runIn s p) : x = y :=
  funext fun s => funext fun p => h s p

/-- What comes second matters only for what the first part returns. -/
theorem runIn_bind_congr {x : Expansion α} {f g : α → Expansion β}
    (h : ∀ a q, x.runIn s p = (.ok a, q) → (f a).runIn s q = (g a).runIn s q) :
    (x >>= f).runIn s p = (x >>= g).runIn s p := by
  rw [runIn_bind, runIn_bind]
  rcases ran : x.runIn s p with ⟨result, q⟩
  cases result with
  | ok a => exact h a q ran
  | error fault => rfl

theorem eq_ok_of_runIn_ofFlaw {x : Except Flaw α} {a : α} {q : Progress}
    (h : (ofFlaw x).runIn s p = (.ok a, q)) : x = .ok a := by
  cases x with
  | ok b =>
      cases h
      rfl
  | error flaw => cases h

@[simp] theorem runIn_fail (cause : Cause) (span : Span) :
    (fail cause span : Expansion α).runIn s p =
      (.error ⟨cause, p.source, span, p.phase, none, none⟩, p) := rfl

/-- A change is undone by `leave`, whatever came out. -/
@[simp] theorem runIn_borrowing (enter : Progress → Progress)
    (leave : Progress → Progress → Progress) (x : Expansion α) :
    (borrowing enter leave x).runIn s p =
      ((x.runIn s (enter p)).1, leave (x.runIn s (enter p)).2 p) := rfl

@[simp] theorem runIn_mapFault (f : Fault → Fault) (x : Expansion α) :
    (mapFault f x).runIn s p = ((x.runIn s p).1.mapError f, (x.runIn s p).2) := by
  rcases h : x.runIn s p with ⟨r, q⟩
  have ran : (x s).run p = (r, q) := h
  unfold mapFault runIn
  rw [ExceptT.run_mk]
  change StateT.bind (x s).run _ p = _
  unfold StateT.bind
  rw [ran]
  cases r with
  | ok a => rfl
  | error fault => rfl

@[simp] theorem runIn_resolve (path : Path) :
    (resolve path).runIn s p = (.ok (p.scope.resolve p.world.store path), p) := rfl

/-- What a change leaves is there also when it fails. -/
theorem runIn_change (path : Path) (f : Store → Outcome α × Store) :
    (change path f).runIn s p =
      (.ok (Scope.write p.scope.locals p.world.store path f).1,
        p.withStores (Scope.write p.scope.locals p.world.store path f).2.1
          (Scope.write p.scope.locals p.world.store path f).2.2) := rfl

@[simp] theorem runIn_addLink (link : Link) :
    (addLink link).runIn s p = (.ok (), p.addLink link) := rfl

@[simp] theorem runIn_draw (f : Chance → α × Chance) :
    (draw f).runIn s p = (.ok (f p.world.chance).1, p.withChance (f p.world.chance).2) := rfl

/-- The number of levels left is known from the limit and the depth. -/
theorem runIn_room (f : Nat → Expansion α) :
    (room >>= f).runIn s p = (f (s.limit - p.depth)).runIn s p := rfl

/-! ## Relations that computations keep -/

/-- Every progress is related to the one that `x` ends in, also when `x` fails, and what `x` returns
satisfies `Q`. -/
def Keeps (R : Progress → Progress → Prop) (s : Setting) (x : Expansion α)
    (Q : α → Prop := fun _ => True) : Prop :=
  ∀ p, R p (x.runIn s p).2 ∧ ∀ a, (x.runIn s p).1 = .ok a → Q a

variable {R : Progress → Progress → Prop} [IsPreorder Progress R] {x : Expansion α}
  {f : α → Expansion β} {P Q : α → Prop}

theorem Keeps.pure {a : α} (h : Q a) : Keeps R s (pure a) Q := by
  intro p
  rw [runIn_pure]
  refine ⟨refl_of R p, ?_⟩
  rintro _ ⟨⟩
  exact h

theorem Keeps.throw (fault : Fault) : Keeps R s (throw fault) Q := by
  intro p
  rw [runIn_throw]
  exact ⟨refl_of R p, nofun⟩

theorem Keeps.fail (cause : Cause) (span : Span) : Keeps R s (fail cause span) Q := by
  intro p
  rw [runIn_fail]
  exact ⟨refl_of R p, nofun⟩

theorem Keeps.get : Keeps R s get := by
  intro p
  rw [runIn_get]
  exact ⟨refl_of R p, fun _ _ => trivial⟩

theorem Keeps.read : Keeps R s read (· = s) := by
  intro p
  rw [runIn_read]
  refine ⟨refl_of R p, ?_⟩
  rintro _ ⟨⟩
  rfl

/-- Sequences keep what both parts keep. -/
theorem Keeps.bind {Q : β → Prop} (hx : Keeps R s x P) (hf : ∀ a, P a → Keeps R s (f a) Q) :
    Keeps R s (x >>= f) Q := by
  intro p
  obtain ⟨hstep, hval⟩ := hx p
  rw [runIn_bind]
  rcases h : x.runIn s p with ⟨r, q⟩
  rw [h] at hstep hval
  cases r with
  | ok a =>
      obtain ⟨hnext, hres⟩ := hf a (hval a rfl) q
      exact ⟨trans_of R hstep hnext, hres⟩
  | error fault => exact ⟨hstep, fun _ h => nomatch h⟩

omit [IsPreorder Progress R] in
theorem Keeps.mapFault {g : Fault → Fault} (hx : Keeps R s x Q) : Keeps R s (mapFault g x) Q := by
  intro p
  rw [runIn_mapFault]
  refine ⟨(hx p).1, fun a ha => (hx p).2 a ?_⟩
  cases h : (x.runIn s p).1 with
  | ok b =>
      rw [h] at ha
      exact ha
  | error fault =>
      rw [h] at ha
      cases ha

omit [IsPreorder Progress R] in
/-- A computation that borrows keeps what holds again when all is given back. -/
theorem Keeps.borrowing {enter : Progress → Progress} {leave : Progress → Progress → Progress}
    (hx : Keeps R s x Q) (h : ∀ p q, R (enter p) q → R p (leave q p)) :
    Keeps R s (borrowing enter leave x) Q := by
  intro p
  rw [runIn_borrowing]
  exact ⟨h p _ (hx (enter p)).1, (hx (enter p)).2⟩

/-- Going through a list keeps what each of its elements keeps. -/
theorem Keeps.forM {xs : List α} {g : α → Expansion PUnit} (h : ∀ a ∈ xs, Keeps R s (g a)) :
    Keeps R s (xs.forM g) := by
  induction xs with
  | nil =>
      rw [List.forM_eq_forM, List.forM_nil]
      exact Keeps.pure trivial
  | cons a xs ih =>
      rw [List.forM_eq_forM, List.forM_cons]
      refine Keeps.bind (h a List.mem_cons_self) fun _ _ => ?_
      exact ih fun c hc => h c (List.mem_cons_of_mem _ hc)

end Fiction.Expansion
