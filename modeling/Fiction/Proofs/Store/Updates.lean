import Fiction.Proofs.Integer
import Fiction.Proofs.Store.Tree

/-!
# Fiction.Proofs.Store.Updates

**Updates in place fail cleanly and can be undone.** An update reads the value at a path, computes
another one and writes that (`update_fst`, `update_snd`), so the laws of reading and writing apply to it:
if the way back leads to the value there was, the store is the same as before (`update_update`).

* `inverse_inverse` is the way back of an inversion, and `Integer.add?_neg_of_add?` that of a sum.
* `updates_fail_cleanly` collects what is known of adding, inverting and removing.
-/

namespace Fiction

namespace Store

variable {s : Store} {p q : Path} {path : Path} {depth : Nat} {key : String} {rest : List String}
  {m : Mapping Value} {f g : Value → Outcome Value} {v w : Value}

/-! ## Updates -/

/-- The change that an update makes at the end of a path. -/
def alter (path : Path) (f : Value → Outcome Value) (key : String) (m : Mapping Value) :
    Outcome Value × Mapping Value :=
  match Mapping.get? m key with
  | some v =>
      match f v with
      | .ok v => (.ok v, Mapping.insert m key v)
      | .error cause => (.error cause, m)
  | none => (.error (.undefined path.text), m)

theorem alter_missing (h : Mapping.get? m key = none) :
    alter path f key m = (.error (.undefined path.text), m) := by
  rw [alter, h]

theorem alter_ok (h : Mapping.get? m key = some v) (hf : f v = .ok w) :
    alter path f key m = (.ok w, Mapping.insert m key w) := by
  rw [alter, h]
  dsimp only
  rw [hf]

theorem alter_error {cause : Cause} (h : Mapping.get? m key = some v) (hf : f v = .error cause) :
    alter path f key m = (.error cause, m) := by
  rw [alter, h]
  dsimp only
  rw [hf]

theorem alter_of_error {cause : Cause} (h : (alter path f key m).1 = .error cause) :
    (alter path f key m).2 = m := by
  cases found : Mapping.get? m key with
  | none => rw [alter_missing found]
  | some v =>
      cases computed : f v with
      | ok w =>
          rw [alter_ok found computed] at h
          cases h
      | error cause => rw [alter_error found computed]

/-- An update computes with the value that is read. -/
theorem editIn_alter_fst :
    (editIn path false (alter path f) depth key rest m).1 = getIn path depth key rest m >>= f := by
  induction rest generalizing depth key m with
  | nil =>
      cases found : Mapping.get? m key with
      | none =>
          rw [editIn, alter_missing found, getIn_missing found]
          rfl
      | some v =>
          rw [editIn, getIn_last found]
          cases computed : f v with
          | ok w =>
              rw [alter_ok found computed]
              exact computed.symm
          | error cause =>
              rw [alter_error found computed]
              exact computed.symm
  | cons next rest ih =>
      rcases found_cases m key with missing | ⟨inner, found⟩ | ⟨v, found, hv⟩
      · rw [editIn_missing missing, getIn_missing missing]
        rfl
      · rw [editIn_inside found, getIn_inside found, ih]
      · rw [editIn_blocked found hv, getIn_blocked found hv]
        rfl

/-- An update writes what it computed. -/
theorem editIn_alter_snd (h : (editIn path false (alter path f) depth key rest m).1 = .ok w) :
    (editIn path false (alter path f) depth key rest m).2 =
      (editIn path true (put w) depth key rest m).2 := by
  induction rest generalizing depth key m with
  | nil =>
      rw [editIn] at h
      rw [editIn, editIn]
      cases found : Mapping.get? m key with
      | none =>
          rw [alter_missing found] at h
          cases h
      | some v =>
          cases computed : f v with
          | ok u =>
              rw [alter_ok found computed] at h ⊢
              cases h
              rfl
          | error cause =>
              rw [alter_error found computed] at h
              cases h
  | cons next rest ih =>
      rcases found_cases m key with missing | ⟨inner, found⟩ | ⟨v, found, hv⟩
      · rw [editIn_missing missing] at h
        cases h
      · rw [editIn_inside found] at h
        rw [editIn_inside found, editIn_inside found, ih h]
      · rw [editIn_blocked found hv] at h
        cases h

theorem update_fst (s : Store) (p : Path) (f : Value → Outcome Value) :
    (s.update p f).1 = s.get p >>= f :=
  editIn_alter_fst

theorem update_snd (h : (s.update p f).1 = .ok w) : (s.update p f).2 = (s.set p w).2 :=
  congrArg Store.mk (editIn_alter_snd h)

/-- **An update that fails leaves the store as it was.** -/
theorem update_of_error {cause : Cause} (h : (s.update p f).1 = .error cause) :
    (s.update p f).2 = s := by
  have root : (s.update p f).2.root = s.root :=
    editIn_of_error (fun _ _ _ => alter_of_error) (fun h => by cases h) h
  exact congrArg Store.mk root

/-- **An update is undone by one that computes the value there was.** -/
theorem update_update (hv : s.get p = .ok v) (hf : f v = .ok w) (hg : g w = .ok v) :
    (s.update p f).2.update p g = (.ok v, s) := by
  have first : (s.update p f).1 = .ok w := by
    rw [update_fst, hv]
    exact hf
  have there : (s.set p w).2.get p = .ok w := get_set_self (set_ok_of_get hv w)
  have second : ((s.set p w).2.update p g).1 = .ok v := by
    rw [update_fst, there]
    exact hg
  rw [update_snd first]
  refine Prod.ext second ?_
  rw [update_snd second, set_set, set_of_get hv]

/-! ## The way back -/

/-- A boolean or an integer that has an opposite is the opposite of its opposite. -/
theorem inverse_inverse (hv : v.kind = .boolean ∨ v.kind = .integer) (h : inverse v = .ok w) :
    inverse w = .ok v := by
  cases v with
  | bool b =>
      cases h
      rw [inverse, Bool.not_not]
  | int n =>
      rw [inverse] at h
      cases negated : Integer.neg? n with
      | none =>
          rw [negated] at h
          cases h
      | some k =>
          rw [negated] at h
          cases h
          rw [inverse, Integer.neg?_of_neg? negated]
  | null | real x | text t | list items | mapping entries => simp [Value.kind] at hv

theorem plus_int (n d : Int64) :
    Operator.plus.apply (.int n) (.int d) = Operator.fitted "+" (Integer.add? n d) := rfl

/-- A sum of integers is an integer from which the summand can be taken away again. -/
theorem plus_int_neg {n d : Int64} (hd : d.toInt ≠ Integer.least)
    (h : Operator.plus.apply (.int n) (.int d) = .ok w) :
    Operator.plus.apply w (.int (-d)) = .ok (.int n) := by
  rw [plus_int] at h
  cases added : Integer.add? n d with
  | none =>
      rw [added] at h
      cases h
  | some k =>
      rw [added] at h
      cases h
      rw [plus_int, Integer.add?_neg_of_add? hd added, Operator.fitted]

/-! ## Removing -/

theorem edited_of_remove {removed : Option Value} (h : (s.remove p).1 = .ok removed) :
    Edited (fun key m m' => m' = Mapping.erase m key) false p.head p.tail s.root
      (s.remove p).2.root := by
  refine (edited_of_ok h).mono ?_
  rintro key m m' ⟨⟩
  rfl

theorem remove_of_error {cause : Cause} (h : (s.remove p).1 = .error cause) :
    (s.remove p).2 = s := by
  have root : (s.remove p).2.root = s.root :=
    editIn_of_error (fun _ _ _ failed => by cases failed) (fun h => by cases h) h
  exact congrArg Store.mk root

theorem get_remove_self {removed : Option Value} (h : (s.remove p).1 = .ok removed) :
    (s.remove p).2.get p = .error (.undefined p.text) := by
  obtain ⟨front, last, hfront⟩ := p.exists_last
  obtain ⟨new, hnew, rfl⟩ := (edited_of_remove h).parent hfront
  rw [get_eq_getIn, getIn_of_mappingIn? hfront hnew]
  exact getIn_missing (by rw [Mapping.get?_erase, if_pos rfl])

theorem get_remove_of_apart {removed : Option Value} (h : (s.remove p).1 = .ok removed)
    (apart : Apart p.segments q.segments) : (s.remove p).2.get q = s.get q := by
  refine (edited_of_remove h).getIn_of_apart ?_ apart
  rintro key m m' other rfl differ
  rw [Mapping.get?_erase, if_neg differ]

/-- The mapping that held the value has one key less, and those in front of it have the same keys. -/
theorem mapping?_remove {removed : Option Value} (h : (s.remove p).1 = .ok removed)
    {front : List String} {onward : String} (hfront : front ++ [onward] <+: p.segments)
    (hold : s.mapping? front = some m) :
    ∃ new, (s.remove p).2.mapping? front = some new ∧
      new.map Prod.fst = (m.map Prod.fst).filter (front ++ [·] ≠ p.segments) := by
  have old : (mappingIn? front s.root).getD [] = m := by
    rw [show mappingIn? front s.root = some m from hold, Option.getD_some]
  by_cases last : front ++ [onward] = p.segments
  · obtain ⟨new, hnew, rfl⟩ := (edited_of_remove h).parent last
    refine ⟨_, hnew, ?_⟩
    rw [old, Mapping.map_fst_erase, ← last]
    refine List.filter_congr fun k _ => ?_
    simp
  · obtain ⟨⟨below, hbelow⟩, there⟩ := (edited_of_remove h).ancestor hfront last
    refine ⟨_, hbelow, ?_⟩
    -- the path goes on, so it does not end with any key of this mapping
    have longer (k : String) : front ++ [k] ≠ p.segments := by
      intro same
      refine last (hfront.eq_of_length_le ?_)
      simp [← same]
    rw [Mapping.map_fst_insert, if_pos (there rfl), old, List.filter_eq_self.mpr]
    exact fun k _ => decide_eq_true (longer k)

/-- **Updates in place fail cleanly and undo themselves.** Adding and inverting fail as reading does, and
whatever fails leaves the store as it was. Inverting a boolean or an integer a second time, and adding the
opposite of an integer, give back the very same store. What is removed is undefined then; paths that lead
elsewhere are read as before, and the keys that are left keep their order. -/
theorem updates_fail_cleanly (s : Store) (p : Path) :
    (∀ cause, s.get p = .error cause →
      (∀ d, (s.add p d).1 = .error cause) ∧ (s.invert p).1 = .error cause) ∧
    (∀ cause, (∀ d, (s.add p d).1 = .error cause → (s.add p d).2 = s) ∧
      ((s.invert p).1 = .error cause → (s.invert p).2 = s) ∧
      ((s.remove p).1 = .error cause → (s.remove p).2 = s)) ∧
    (∀ v w, s.get p = .ok v → v.kind = .boolean ∨ v.kind = .integer → (s.invert p).1 = .ok w →
      (s.invert p).2.invert p = (.ok v, s)) ∧
    (∀ n d w, s.get p = .ok (.int n) → d.toInt ≠ Integer.least → (s.add p (.int d)).1 = .ok w →
      (s.add p (.int d)).2.add p (.int (-d)) = (.ok (.int n), s)) ∧
    (∀ removed, (s.remove p).1 = .ok removed →
      (s.remove p).2.get p = .error (.undefined p.text) ∧
      (∀ q : Path, ¬ p.segments <+: q.segments → ¬ q.segments <+: p.segments →
        (s.remove p).2.get q = s.get q) ∧
      ∀ front onward old, front ++ [onward] <+: p.segments → s.mapping? front = some old →
        ∃ new, (s.remove p).2.mapping? front = some new ∧
          new.map Prod.fst = (old.map Prod.fst).filter (front ++ [·] ≠ p.segments)) := by
  refine ⟨?_, ?_, ?_, ?_, ?_⟩
  · intro cause h
    have fails (f : Value → Outcome Value) : (s.update p f).1 = .error cause := by
      rw [update_fst, h]
      rfl
    exact ⟨fun d => fails _, fails _⟩
  · intro cause
    exact ⟨fun d => update_of_error, update_of_error, remove_of_error⟩
  · intro v w hv hkind h
    have inverted : inverse v = .ok w := by
      rw [invert, update_fst, hv] at h
      exact h
    exact update_update hv inverted (inverse_inverse hkind inverted)
  · intro n d w hn hd h
    have added : Operator.plus.apply (.int n) (.int d) = .ok w := by
      rw [add, update_fst, hn] at h
      exact h
    exact update_update hn added (plus_int_neg hd added)
  · intro removed h
    refine ⟨get_remove_self h, fun q notBehind notBefore => ?_, fun front onward old => ?_⟩
    · exact get_remove_of_apart h ⟨notBehind, notBefore⟩
    · exact mapping?_remove h

/-- Gold that is spent and earned again, and a lamp that is switched twice. -/
theorem purse_updates_undone :
    let s : Store := ⟨[("purse", .mapping [("gold", .int 3), ("lit", .bool false)])]⟩
    let gold : Path := ⟨"purse", ["gold"]⟩
    let lit : Path := ⟨"purse", ["lit"]⟩
    (s.add gold (.int (-5))).2.add gold (.int 5) = (.ok (.int 3), s) ∧
      (s.invert lit).2.invert lit = (.ok (.bool false), s) ∧
      (s.remove gold).2.get lit = .ok (.bool false) := by
  intro s gold lit
  refine ⟨?_, ?_, ?_⟩
  · exact (updates_fail_cleanly s gold).2.2.2.1 3 (-5) (.int (-2)) rfl (by decide) rfl
  · exact (updates_fail_cleanly s lit).2.2.1 (.bool false) (.bool true) rfl (.inl rfl) rfl
  · exact ((updates_fail_cleanly s gold).2.2.2.2 (some (.int 3)) rfl).2.1 lit (by decide) (by decide)

end Store

end Fiction
