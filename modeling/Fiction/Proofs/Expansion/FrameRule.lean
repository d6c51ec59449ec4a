import Fiction.Proofs.Expansion.Congruence

/-!
# Fiction.Proofs.Expansion.FrameRule

**What all of expansion leaves alone.** `FrameRule R clean s` collects what has to be known of a
relation `R` between states so that all of expansion keeps it:

* it survives a link that is added, and it holds again when a map, a call or an inclusion gives back
  what it borrowed;
* it allows writing, if a call that writes can be reached at all.

Keeping such a relation is a congruence. `keeps_callWith` is the result: the levels left are the
induction.
-/

namespace Fiction.Expansion

/-- A relation that variables and chance are free to change under. -/
structure Writable (R : Progress → Progress → Prop) : Prop where
  stores : ∀ p locals store, R p (p.withStores locals store)
  chance : ∀ p chance, R p (p.withChance chance)

/-- What makes all of expansion keep a relation. -/
structure FrameRule (R : Progress → Progress → Prop) (clean : List Char → Prop) (s : Setting) :
    Prop where
  /-- Pieces of clean texts are clean. -/
  piece : ∀ {cs ds}, cs <:+: ds → clean ds → clean cs
  /-- The nodes that can be included are clean. -/
  nodes : ∀ {name content}, s.story.node? name = some (.markup content) → clean content.toList
  /-- If a call that changes the state can be reached, the relation allows for it. -/
  changes : ∀ {name b}, s.library.find? name = some b → clean (callHead name) →
    b.changesState = true → Writable R
  /-- Links may be added. -/
  link : ∀ p l, R p (p.addLink l)
  /-- A map drops the bindings it pushed. -/
  element : ∀ {p q frame}, R (p.push frame) q → R p q.pop
  /-- A call comes back to its level. -/
  level : ∀ {p q}, R p.deeper q → R p q.shallower
  /-- An inclusion gives back text and scope, and drops its links. -/
  inclusion : ∀ {p q source context}, R (p.enter source context) q → R p (q.leave p)

variable {R : Progress → Progress → Prop} [IsPreorder Progress R] {α : Type} {s : Setting}

/-! ## Writing -/

section

variable (hw : Writable R)

include hw

omit [IsPreorder Progress R] in
theorem keeps_change (path : Path) (f : Store → Outcome α × Store) :
    Keeps R s (change path f) := by
  intro p
  rw [runIn_change]
  exact ⟨hw.stores _ _ _, fun _ _ => trivial⟩

omit [IsPreorder Progress R] in
theorem keeps_draw (f : Chance → α × Chance) : Keeps R s (draw f) := by
  intro p
  rw [runIn_draw]
  exact ⟨hw.chance p _, fun _ _ => trivial⟩

end

/-! ## All of expansion -/

omit [IsPreorder Progress R] in
/-- What a computation returns is something it can return. -/
theorem Keeps.returns {x : Expansion α} (hx : Keeps R s x) : Keeps R s x (Returns s x) :=
  fun p => ⟨(hx p).1, fun _ ha => ⟨p, ha⟩⟩

variable {clean : List Char → Prop} (rule : FrameRule R clean s)

include rule

omit [IsPreorder Progress R] in
theorem keeps_addLink (l : Link) : Keeps R s (addLink l) := by
  intro p
  rw [runIn_addLink]
  exact ⟨rule.link p l, fun _ _ => trivial⟩

/-- Keeping a relation, as a relation between computations that looks at the first one only. What text
is at hand does not matter. -/
def KeepsLeft (R : Progress → Progress → Prop) (s : Setting) (_ : Source) ⦃α : Type⦄
    (x _ : Expansion α) : Prop :=
  Keeps R s x

/-- Keeping a relation is a congruence. -/
theorem FrameRule.congruence :
    Congruence (KeepsLeft R s) (fun _ f => clean f.chars) (fun _ _ => True) s s where
  library := rfl
  story := rfl
  piece h := rule.piece h.isInfix
  nodes := rule.nodes
  within _ _ := trivial
  join _ _ := trivial
  value _ := Keeps.pure trivial
  flaw _ _ := Keeps.get.bind fun _ _ => Keeps.throw _
  state := Keeps.get
  setting h := Keeps.read.bind fun _ same => same ▸ h
  sequence hx hf := (Keeps.returns hx).bind hf
  link := keeps_addLink rule
  changes hfind hclean hb :=
    have hw := rule.changes hfind hclean hb
    ⟨keeps_change hw, keeps_draw hw⟩
  element hx := Keeps.borrowing hx fun _ _ => rule.element
  inclusion _ hx := Keeps.mapFault (Keeps.borrowing hx fun _ _ => rule.inclusion)

section

variable {call : Caller} (hcall : ∀ c, c.Clean (clean ·.chars) → Keeps R s (call c))

include hcall

theorem keeps_evaluate {f : Fragment} (hf : clean f.chars) : Keeps R s (evaluate call f) :=
  have related : KeepsLeft R s .none (evaluate call f) (evaluate call f) :=
    related_evaluate rule.congruence (fun _ => hcall) hf
  related

theorem keeps_markup {f : Fragment} (hf : clean f.chars) : Keeps R s (markup call f) :=
  have related : KeepsLeft R s .none (markup call f) (markup call f) :=
    related_markup rule.congruence (fun _ => hcall) hf
  related

theorem keeps_dispatch {c : Call} (hc : c.Clean (clean ·.chars)) : Keeps R s (dispatch call c) :=
  have related : KeepsLeft R s .none (dispatch call c) (dispatch call c) :=
    related_dispatch rule.congruence (fun _ => hcall) hc
  related

end

/-- **All of expansion keeps what the frame rule allows for.** By induction on the levels left. -/
theorem keeps_callWith (room : Nat) (c : Call) (hc : c.Clean (clean ·.chars)) :
    Keeps R s (callWith room c) := by
  induction room generalizing c with
  | zero => exact Keeps.read.bind fun _ _ => Keeps.fail _ _
  | succ room ih =>
      exact Keeps.mapFault ((keeps_dispatch rule ih hc).borrowing fun _ _ => rule.level)

omit rule in
theorem keeps_room : Keeps R s room :=
  Keeps.read.bind fun _ _ => Keeps.get.bind fun _ _ => Keeps.pure trivial

theorem keeps_callTop {c : Call} (hc : c.Clean (clean ·.chars)) : Keeps R s (callTop c) :=
  keeps_room.bind fun room _ => keeps_callWith rule room c hc

theorem keeps_evaluateTop {f : Fragment} (hf : clean f.chars) : Keeps R s (evaluateTop f) :=
  keeps_room.bind fun room _ => keeps_evaluate rule (keeps_callWith rule room) hf

theorem keeps_markupTop {f : Fragment} (hf : clean f.chars) : Keeps R s (markupTop f) :=
  keeps_room.bind fun room _ => keeps_markup rule (keeps_callWith rule room) hf

end Fiction.Expansion
