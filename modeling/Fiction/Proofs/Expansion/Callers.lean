import Fiction.Proofs.Expansion.Congruence

/-!
# Fiction.Proofs.Expansion.Callers

**Expansion depends on its caller only through the calls that it makes.** If one caller does what
another does, then so does all that is built on it.

* `Agree excused r r'` compares two outcomes: they are the same, unless the first one is a failure
  for an excused cause.
* `Follows excused d s s' x y` compares two computations at a depth `d`. No place of expansion
  catches a failure, so excused failures of calls come out at the end, and everything else is the
  same.

The depth is fixed because what a call may still do depends on it; a computation that is compared
comes back to the depth it started at.
-/

namespace Fiction.Expansion

variable {α β : Type} {excused : Cause → Prop} {d : Nat} {s s' : Setting}

/-- Two outcomes are the same, unless the first one is a failure for an excused cause. -/
def Agree {σ : Type} (excused : Cause → Prop) (r r' : Except Fault α × σ) : Prop :=
  r' = r ∨ ∃ fault, r.1 = .error fault ∧ excused fault.cause

theorem Agree.eq_of {σ : Type} {r r' : Except Fault α × σ} (h : Agree excused r r')
    (hr : ∀ fault, r.1 = .error fault → ¬ excused fault.cause) : r' = r := by
  rcases h with same | ⟨fault, hfault, hexcused⟩
  · exact same
  · exact absurd hexcused (hr fault hfault)

/-- At a depth, `y` does what `x` does, unless `x` fails for an excused cause. -/
def Follows (excused : Cause → Prop) (d : Nat) (s s' : Setting) (x y : Expansion α) : Prop :=
  ∀ p, p.depth = d → (x.runIn s p).2.depth = d ∧ Agree excused (x.runIn s p) (y.runIn s' p)

namespace Follows

variable {x y : Expansion α} {f g : α → Expansion β}

/-! ## Computations that make no calls -/

/-- What does not look at the setting and keeps the depth. -/
theorem same (hsetting : ∀ p, x.runIn s' p = x.runIn s p)
    (hdepth : ∀ p, (x.runIn s p).2.depth = p.depth) : Follows excused d s s' x x :=
  fun p hp => ⟨(hdepth p).trans hp, .inl (hsetting p)⟩

theorem pure (a : α) : Follows excused d s s' (pure a) (pure a) :=
  same (fun _ => rfl) fun _ => rfl

theorem throw (fault : Fault) :
    Follows excused d s s' (throw fault : Expansion α) (throw fault) :=
  same (fun _ => rfl) fun _ => rfl

theorem get : Follows excused d s s' get get :=
  same (fun _ => rfl) fun _ => rfl

theorem addLink (link : Link) : Follows excused d s s' (addLink link) (addLink link) :=
  same (fun _ => rfl) fun _ => rfl

theorem draw (f : Chance → α × Chance) : Follows excused d s s' (draw f) (draw f) :=
  same (fun _ => rfl) fun _ => rfl

theorem change (path : Path) (f : Store → Outcome α × Store) :
    Follows excused d s s' (change path f) (change path f) := by
  refine same (fun p => by rw [runIn_change, runIn_change]) fun p => ?_
  rw [runIn_change]
  rfl

/-! ## Computations made of others -/

/-- Sequences follow if both parts do, the second one for all that the first one can return. -/
theorem bind (hx : Follows excused d s s' x y)
    (hf : ∀ a, Returns s x a → Follows excused d s s' (f a) (g a)) :
    Follows excused d s s' (x >>= f) (y >>= g) := by
  intro p hp
  obtain ⟨hdepth, hsame⟩ := hx p hp
  rw [runIn_bind, runIn_bind]
  rcases hsame with hsame | ⟨fault, hfault, hexcused⟩
  · -- the second parts start where `x` ended, which is at the same depth
    rw [hsame]
    rcases h : x.runIn s p with ⟨r, q⟩
    rw [h] at hdepth
    cases r with
    | ok a => exact hf a ⟨p, by rw [h]⟩ q hdepth
    | error fault => exact ⟨hdepth, .inl rfl⟩
  · -- an excused failure of `x` is one of the sequence
    rcases h : x.runIn s p with ⟨r, q⟩
    rw [h] at hdepth hfault
    cases hfault
    exact ⟨hdepth, .inr ⟨fault, rfl, hexcused⟩⟩

/-- What depends on the setting follows if it does for the two settings at hand. -/
theorem read {f g : Setting → Expansion β} (h : Follows excused d s s' (f s) (g s')) :
    Follows excused d s s' (MonadReader.read >>= f) (MonadReader.read >>= g) := by
  intro p hp
  rw [runIn_bind, runIn_bind, runIn_read, runIn_read]
  exact h p hp

/-- A fault may be changed in anything but its cause. -/
theorem mapFault {h : Fault → Fault} (hcause : ∀ fault, (h fault).cause = fault.cause)
    (hx : Follows excused d s s' x y) : Follows excused d s s' (mapFault h x) (mapFault h y) := by
  intro p hp
  obtain ⟨hdepth, hsame⟩ := hx p hp
  rw [runIn_mapFault, runIn_mapFault]
  refine ⟨hdepth, ?_⟩
  rcases hsame with hsame | ⟨fault, hfault, hexcused⟩
  · exact .inl (by rw [hsame])
  · refine .inr ⟨h fault, by rw [hfault]; rfl, ?_⟩
    rwa [hcause]

/-- What is borrowed may change the depth, if it is given back. -/
theorem borrowing {e : Nat} {enter : Progress → Progress} {leave : Progress → Progress → Progress}
    (henter : ∀ p, p.depth = d → (enter p).depth = e)
    (hleave : ∀ p q, p.depth = d → q.depth = e → (leave q p).depth = d)
    (hx : Follows excused e s s' x y) :
    Follows excused d s s' (borrowing enter leave x) (borrowing enter leave y) := by
  intro p hp
  obtain ⟨hdepth, hsame⟩ := hx (enter p) (henter p hp)
  rw [runIn_borrowing, runIn_borrowing]
  refine ⟨hleave p _ hp hdepth, ?_⟩
  rcases hsame with hsame | hexcused
  · exact .inl (by rw [hsame])
  · exact .inr hexcused

theorem forM {f g : α → Expansion PUnit} (h : ∀ a, Follows excused d s s' (f a) (g a))
    (xs : List α) : Follows excused d s s' (xs.forM f) (xs.forM g) := by
  induction xs with
  | nil =>
      rw [List.forM_eq_forM, List.forM_nil, List.forM_nil]
      exact pure _
  | cons a xs ih =>
      rw [List.forM_eq_forM, List.forM_cons, List.forM_cons]
      exact (h a).bind fun _ _ => ih

end Follows

/-! ## All of expansion -/

/-- Following, whatever text is at hand. -/
def FollowsIn (excused : Cause → Prop) (d : Nat) (s s' : Setting) (_ : Source) ⦃α : Type⦄
    (x y : Expansion α) : Prop :=
  Follows excused d s s' x y

/-- Following is a congruence, where the same calls and nodes are there. All fragments are clean. -/
theorem follows_congruence (hlibrary : s'.library = s.library) (hstory : s'.story = s.story) :
    Congruence (FollowsIn excused d s s') (fun _ _ => True) (fun _ _ => True) s s' where
  library := hlibrary
  story := hstory
  piece _ _ := trivial
  nodes _ := trivial
  within _ _ := trivial
  join _ _ := trivial
  value := .pure
  flaw _ _ := Follows.get.bind fun _ _ => .throw _
  state := .get
  setting := .read
  sequence := .bind
  link := .addLink
  changes _ _ _ := ⟨.change, .draw⟩
  element := .borrowing (fun _ hp => hp) fun _ _ _ hq => hq
  inclusion _ hx := .mapFault (fun _ => rfl) (.borrowing (fun _ hp => hp) (fun _ _ _ hq => hq) hx)

section

variable (hlibrary : s'.library = s.library) (hstory : s'.story = s.story) {call call' : Caller}
  (hcall : ∀ c, Follows excused d s s' (call c) (call' c))

include hlibrary hstory hcall

theorem follows_evaluate (f : Fragment) :
    Follows excused d s s' (evaluate call f) (evaluate call' f) :=
  have related : FollowsIn excused d s s' .none (evaluate call f) (evaluate call' f) :=
    related_evaluate (follows_congruence hlibrary hstory) (fun _ c _ => hcall c) trivial
  related

theorem follows_markup (f : Fragment) :
    Follows excused d s s' (markup call f) (markup call' f) :=
  have related : FollowsIn excused d s s' .none (markup call f) (markup call' f) :=
    related_markup (follows_congruence hlibrary hstory) (fun _ c _ => hcall c) trivial
  related

/-- What a call stands for follows. -/
theorem follows_dispatch (c : Call) :
    Follows excused d s s' (dispatch call c) (dispatch call' c) :=
  have related : FollowsIn excused d s s' .none (dispatch call c) (dispatch call' c) :=
    related_dispatch (follows_congruence hlibrary hstory) (fun _ c _ => hcall c)
      ⟨trivial, trivial, fun _ _ => trivial⟩
  related

end

end Fiction.Expansion
