import Fiction.Proofs.Value.Equality
import Fiction.Value.Order
import Mathlib.Data.Ordering.Basic

/-!
# Fiction.Proofs.Value.Order

**Values without reals are partially ordered, and the order goes with equality.**

* Texts are ordered as lists of code points are (`Text.compareChars_eq_compareLex`), which is a linear order.
* `Value.Compared` says which values have an order. `compared_of_compare?`: without reals there are no others, so
  the laws are shown kind by kind.
* `compare?_swap`, `compare?_trans`, `beq_of_compare?` and `compare?_of_beq` are the laws. Lists have them from their
  elements.
-/

namespace Fiction

open Std (TransCmp OrientedCmp LawfulEqCmp)

/-! ## Two steps up -/

theorem then_ne_gt {o o' : Ordering} (ho : o ≠ .gt) (ho' : o' ≠ .gt) : o.then o' ≠ .gt := by
  rw [ne_eq, Ordering.then_eq_gt, not_or, not_and]
  exact ⟨ho, fun _ => ho'⟩

theorem then_eq_lt_of_strict {o o' : Ordering} (ho : o ≠ .gt) (strict : o = .lt ∨ o' = .lt) :
    o.then o' = .lt := by
  cases o with
  | lt => rfl
  | eq => exact strict.resolve_left (by decide)
  | gt => exact absurd rfl ho

/-- Of two steps up in a linear order the first one that is strict decides. -/
theorem compare_eq_then {α : Type u} {cmp : α → α → Ordering} [TransCmp cmp] {a b c : α}
    (hab : cmp a b ≠ .gt) (hbc : cmp b c ≠ .gt) : cmp a c = (cmp a b).then (cmp b c) := by
  cases first : cmp a b with
  | lt => exact TransCmp.lt_of_lt_of_isLE first (Ordering.isLE_iff_ne_gt.mpr hbc)
  | eq => exact TransCmp.congr_left first
  | gt => exact absurd first hab

/-! ## Texts -/

namespace Text

theorem compareChars_eq_compareLex :
    compareChars = List.compareLex (compareOn Char.toNat) := by
  funext as bs
  induction as generalizing bs with
  | nil =>
      cases bs with
      | nil => rfl
      | cons b bs => rfl
  | cons a as ih =>
      cases bs with
      | nil => rfl
      | cons b bs => rw [compareChars, ih, List.compareLex_cons_cons, compareOn]

instance : TransCmp compareChars :=
  compareChars_eq_compareLex ▸ inferInstance

instance lawfulEqCmp_toNat : LawfulEqCmp (compareOn Char.toNat) where
  compare_self := Nat.compare_eq_eq.mpr rfl
  eq_of_compare h := Char.toNat_inj.mp (Nat.compare_eq_eq.mp h)

instance : LawfulEqCmp compareChars :=
  compareChars_eq_compareLex ▸ inferInstance

end Text

namespace Value

variable {a b c : Value} {items xs ys zs : List Value} {o o' : Ordering}

theorem not_realFree_real (x : Float) : ¬ (real x).RealFree :=
  fun h => h (real x) List.mem_cons_self rfl

/-! ## Values that have an order -/

/-- Two values that have an order, and which. -/
inductive Compared : Value → Value → Ordering → Prop
  | int (m n : Int64) : Compared (int m) (int n) (compare m.toInt n.toInt)
  | text (s t : String) : Compared (text s) (text t) (Text.compareChars s.toList t.toList)
  | bool (p q : Bool) : Compared (bool p) (bool q) (compare p.toNat q.toNat)
  | list {xs ys : List Value} {o : Ordering} (h : compareList? xs ys = some o) :
      Compared (list xs) (list ys) o

theorem compared_of_compare? (ha : a.RealFree) (hb : b.RealFree) (h : compare? a b = some o) :
    Compared a b o := by
  unfold compare? at h
  split at h
  · cases h
    exact .int _ _
  · exact absurd hb (not_realFree_real _)
  · exact absurd ha (not_realFree_real _)
  · exact absurd ha (not_realFree_real _)
  · cases h
    exact .text _ _
  · cases h
    exact .bool _ _
  · exact .list h
  · cases h

/-! ## The other way round -/

theorem compareList?_swap
    (h : ∀ x ∈ xs, ∀ y ∈ ys, compare? y x = (compare? x y).map Ordering.swap) :
    compareList? ys xs = (compareList? xs ys).map Ordering.swap := by
  induction xs generalizing ys with
  | nil =>
      cases ys with
      | nil => rfl
      | cons y ys => rfl
  | cons x xs ih =>
      cases ys with
      | nil => rfl
      | cons y ys =>
          have rest := ih fun x hx y hy => h x (List.mem_cons_of_mem _ hx) y (List.mem_cons_of_mem _ hy)
          rw [compareList?, compareList?, h x List.mem_cons_self y List.mem_cons_self]
          rcases compare? x y with _ | _ | _ | _
          · rfl
          · rfl
          · exact rest
          · rfl

/-- **What is less one way is greater the other way**, and values without an order have none either way. -/
theorem compare?_swap (ha : a.RealFree) (hb : b.RealFree) :
    compare? b a = (compare? a b).map Ordering.swap := by
  induction a generalizing b with
  | null => cases b <;> rfl
  | bool p =>
      cases b with
      | bool q => exact congrArg some OrientedCmp.eq_swap
      | _ => rfl
  | int m =>
      cases b with
      | int n => exact congrArg some OrientedCmp.eq_swap
      | real x => exact absurd hb (not_realFree_real x)
      | _ => rfl
  | real x => exact absurd ha (not_realFree_real x)
  | text s =>
      cases b with
      | text t => exact congrArg some OrientedCmp.eq_swap
      | _ => rfl
  | list xs ih =>
      cases b with
      | list ys =>
          rw [realFree_list_iff] at ha hb
          exact compareList?_swap fun x hx y hy => ih x hx (ha x hx) (hb y hy)
      | _ => rfl
  | mapping entries _ => cases b <;> rfl

/-! ## Steps up -/

/-- A list is not above another one if their first elements decide so, or are equal and leave it to the rest. -/
theorem compareList?_cons_iff {x y : Value} (ho : o ≠ .gt) :
    compareList? (x :: xs) (y :: ys) = some o ↔
      compare? x y = some .lt ∧ o = .lt ∨ compare? x y = some .eq ∧ compareList? xs ys = some o := by
  rw [compareList?]
  rcases compare? x y with _ | _ | _ | _
  · simp
  · simp [eq_comm]
  · simp
  · simp [Ne.symm ho]

/-- Of two steps up from a value the first one that is strict decides. -/
def Ascends (a : Value) : Prop :=
  ∀ ⦃b c : Value⦄ ⦃o o' : Ordering⦄, b.RealFree → c.RealFree → compare? a b = some o →
    compare? b c = some o' → o ≠ .gt → o' ≠ .gt → compare? a c = some (o.then o')

theorem compareList?_trans (h : ∀ x ∈ xs, x.Ascends) (hys : ∀ y ∈ ys, y.RealFree)
    (hzs : ∀ z ∈ zs, z.RealFree) (hxy : compareList? xs ys = some o) (hyz : compareList? ys zs = some o')
    (ho : o ≠ .gt) (ho' : o' ≠ .gt) : compareList? xs zs = some (o.then o') := by
  induction xs generalizing ys zs o o' with
  | nil =>
      cases ys with
      | nil =>
          cases hxy
          exact hyz
      | cons y ys =>
          cases hxy
          cases zs with
          | nil =>
              cases hyz
              exact absurd rfl ho'
          | cons z zs => rfl
  | cons x xs ih =>
      cases ys with
      | nil =>
          cases hxy
          exact absurd rfl ho
      | cons y ys =>
          cases zs with
          | nil =>
              cases hyz
              exact absurd rfl ho'
          | cons z zs =>
              rw [List.forall_mem_cons] at h hys hzs
              rw [compareList?_cons_iff ho] at hxy
              rw [compareList?_cons_iff ho'] at hyz
              rw [compareList?_cons_iff (then_ne_gt ho ho')]
              -- the first pair of elements that is not equal decides, be it in the first step or the second
              rcases hxy with ⟨hx, rfl⟩ | ⟨hx, hxs⟩
              · rcases hyz with ⟨hy, rfl⟩ | ⟨hy, -⟩
                · exact .inl ⟨h.1 hys.1 hzs.1 hx hy (by decide) (by decide), rfl⟩
                · exact .inl ⟨h.1 hys.1 hzs.1 hx hy (by decide) (by decide), rfl⟩
              · rcases hyz with ⟨hy, rfl⟩ | ⟨hy, hzs'⟩
                · exact .inl ⟨h.1 hys.1 hzs.1 hx hy (by decide) (by decide),
                    then_eq_lt_of_strict ho (.inr rfl)⟩
                · exact .inr ⟨h.1 hys.1 hzs.1 hx hy (by decide) (by decide),
                    ih h.2 hys.2 hzs.2 hxs hzs' ho ho'⟩

/-- **The order is transitive**: two steps up have an order, which is strict if one of them is. -/
theorem compare?_trans (ha : a.RealFree) : a.Ascends := by
  induction a with
  | null | mapping _ _ =>
      intro b c o o' hb hc hab
      cases compared_of_compare? ha hb hab
  | bool _ | int _ | text _ =>
      intro b c o o' hb hc hab hbc ho ho'
      cases compared_of_compare? ha hb hab
      cases compared_of_compare? hb hc hbc
      exact congrArg some (compare_eq_then ho ho')
  | real x => exact absurd ha (not_realFree_real x)
  | list xs ih =>
      intro b c o o' hb hc hab hbc ho ho'
      cases compared_of_compare? ha hb hab with
      | list hxy =>
          cases compared_of_compare? hb hc hbc with
          | list hyz =>
              rw [realFree_list_iff] at ha hb hc
              exact compareList?_trans (fun x hx => ih x hx (ha x hx)) hb hc hxy hyz ho ho'

/-! ## Equality -/

/-- Lists are level if their elements are. -/
theorem compareList?_eq_iff :
    compareList? xs ys = some .eq ↔ List.Forall₂ (fun x y => compare? x y = some .eq) xs ys := by
  induction xs generalizing ys with
  | nil =>
      cases ys with
      | nil => simp [compareList?]
      | cons y ys => simp [compareList?]
  | cons x xs ih =>
      cases ys with
      | nil => simp [compareList?]
      | cons y ys =>
          rw [compareList?_cons_iff (by decide), List.forall₂_cons, ih]
          simp

/-- A law for pairs of elements carries over to lists. -/
theorem forall₂_imp_of_mem {R S : Value → Value → Prop} (h : ∀ x ∈ xs, ∀ y ∈ ys, R x y → S x y)
    (hR : List.Forall₂ R xs ys) : List.Forall₂ S xs ys := by
  rw [List.forall₂_iff_zip] at hR ⊢
  refine ⟨hR.1, fun hpair => ?_⟩
  obtain ⟨hx, hy⟩ := List.of_mem_zip hpair
  exact h _ hx _ hy (hR.2 hpair)

/-- **Values on a level are equal.** -/
theorem beq_of_compare? (ha : a.RealFree) (hb : b.RealFree) (h : compare? a b = some .eq) :
    (a == b) = true := by
  generalize level : Ordering.eq = o at h
  induction a generalizing b with
  | null | mapping _ _ => cases compared_of_compare? ha hb h
  | bool p =>
      cases compared_of_compare? ha hb h with
      | bool _ q =>
          revert level
          cases p <;> cases q <;> decide
  | int m =>
      cases compared_of_compare? ha hb h with
      | int _ n =>
          obtain rfl : m = n := Int64.toInt_inj.mp (LawfulEqCmp.eq_of_compare level.symm)
          exact beq_self_eq_true m
  | real x => exact absurd ha (not_realFree_real x)
  | text s =>
      cases compared_of_compare? ha hb h with
      | text _ t =>
          obtain rfl : s = t := String.toList_inj.mp (LawfulEqCmp.eq_of_compare level.symm)
          exact beq_self_eq_true s
  | list xs ih =>
      cases compared_of_compare? ha hb h with
      | list h =>
          rw [realFree_list_iff] at ha hb
          subst level
          refine beqList_iff.mpr (forall₂_imp_of_mem (fun x hx y hy level => ?_) (compareList?_eq_iff.mp h))
          exact ih x hx (ha x hx) (hb y hy) level

/-- The value is made of integers, texts, booleans and lists only. -/
def Orderable (v : Value) : Prop :=
  ∀ part ∈ v.parts, part.kind ∈ [Kind.integer, Kind.text, Kind.boolean, Kind.list]

instance (v : Value) : Decidable v.Orderable :=
  inferInstanceAs (Decidable (∀ part ∈ v.parts, part.kind ∈ [Kind.integer, Kind.text, Kind.boolean, Kind.list]))

theorem orderable_list_iff : (list items).Orderable ↔ ∀ v ∈ items, v.Orderable :=
  forall_parts_list.trans ⟨fun h => h.2, fun h => ⟨by simp [kind], h⟩⟩

/-- **Equal values are on a level**, if they are made of what has an order. -/
theorem compare?_of_beq (ha : a.Orderable) (hb : b.RealFree) (h : (a == b) = true) :
    compare? a b = some .eq := by
  induction a generalizing b with
  | null => exact absurd (ha null List.mem_cons_self) (by simp [kind])
  | bool p =>
      cases b with
      | bool q =>
          obtain rfl : p = q := beq_iff_eq.mp h
          exact congrArg some Std.ReflCmp.compare_self
      | _ => cases h
  | int m =>
      cases b with
      | int n =>
          obtain rfl : m = n := beq_iff_eq.mp h
          exact congrArg some Std.ReflCmp.compare_self
      | real x => exact absurd hb (not_realFree_real x)
      | _ => cases h
  | real x => exact absurd (ha (real x) List.mem_cons_self) (by simp [kind])
  | text s =>
      cases b with
      | text t =>
          obtain rfl : s = t := beq_iff_eq.mp h
          exact congrArg some Std.ReflCmp.compare_self
      | _ => cases h
  | list xs ih =>
      cases b with
      | list ys =>
          rw [orderable_list_iff] at ha
          rw [realFree_list_iff] at hb
          refine compareList?_eq_iff.mpr (forall₂_imp_of_mem (fun x hx y hy same => ?_) (beqList_iff.mp h))
          exact ih x hx (ha x hx) (hb y hy) same
      | _ => cases h
  | mapping entries _ => exact absurd (ha (mapping entries) List.mem_cons_self) (by simp [kind])

end Value

end Fiction
