import Fiction.Proofs.Expansion.Simulation

/-!
# Fiction.Proofs.Expansion.Congruence

**Comparing two ways to run the same calls.** Where the texts of two settings are the same, a fragment
corresponds to itself only, and what a simulation asks of pairs of fragments is asked of one.

`Congruence Rel clean placed s s'` collects what is left. Which pieces of the text at hand can be
reached is said by `clean`, a property that every part of a fragment inherits. All that is expanded is a
part of the input or of a node, never a value that was computed; so if these are clean, only calls with a
clean start run. `placed` is the same for the ranges that failures report: each of them covers ranges in
clean fragments.

`Congruence.simulation` is the simulation that it gives, and `related_dispatch` is the result for calls.
-/

namespace Fiction

/-- A call whose start, source and arguments have a property. -/
structure Call.Clean (clean : Fragment → Prop) (c : Call) : Prop where
  head : clean ⟨c.source.offset, callHead c.name⟩
  source : clean c.source
  args : ∀ a ∈ c.args, clean a

/-- Fragments with a property, each of which corresponds to itself. -/
def Fragment.Only (clean : Fragment → Prop) (f f' : Fragment) : Prop :=
  f' = f ∧ clean f

/-- Ranges with a property, each of which corresponds to itself. -/
def Span.Only (placed : Span → Prop) (s s' : Span) : Prop :=
  s' = s ∧ placed s

theorem Fragment.forall₂_only {clean : Fragment → Prop} {xs ys : List Fragment}
    (h : List.Forall₂ (Only clean) xs ys) : ys = xs ∧ ∀ f ∈ xs, clean f := by
  induction h with
  | nil => exact ⟨rfl, fun _ h => absurd h List.not_mem_nil⟩
  | cons first _ ih => exact ⟨by rw [first.1, ih.1], List.forall_mem_cons.mpr ⟨first.2, ih.2⟩⟩

theorem Call.alike_only_iff {clean : Fragment → Prop} {c c' : Call} :
    c.Alike (Fragment.Only clean) c' ↔ c' = c ∧ c.Clean clean := by
  constructor
  · obtain ⟨name, args, source⟩ := c
    obtain ⟨name', args', source'⟩ := c'
    rintro ⟨sameName, ⟨-, head⟩, ⟨sameSource, whole⟩, hargs⟩
    obtain ⟨sameArgs, parts⟩ := Fragment.forall₂_only hargs
    dsimp only at sameName sameSource sameArgs
    refine ⟨?_, head, whole, parts⟩
    rw [sameName, sameSource, sameArgs]
  · rintro ⟨rfl, h⟩
    exact ⟨rfl, ⟨rfl, h.head⟩, ⟨rfl, h.source⟩, List.forall₂_same.mpr fun f hf => ⟨rfl, h.args f hf⟩⟩

/-- The correspondence of a text with itself. -/
theorem Matching.only {clean : Fragment → Prop} {placed : Span → Prop}
    (piece : ∀ {f g : Fragment}, f.PartOf g → clean g → clean f)
    (within : ∀ {f : Fragment} {span : Span}, clean f → span.Within f → placed span)
    (join : ∀ {a b : Span}, placed a → placed b → placed (a.join b)) :
    Matching (Fragment.Only clean) (Span.Only placed) := by
  have shift_inj {f : Fragment} {a b : Nat} (h : f.shift b = f.shift a) : b = a :=
    Nat.add_right_cancel (congrArg Fragment.offset h)
  constructor
  · rintro f g ⟨rfl, _⟩
    rfl
  · rintro f g a b ⟨same, hf⟩ part
    cases shift_inj same
    exact ⟨rfl, piece (part.shift a) hf⟩
  · rintro f s a b ⟨same, hf⟩ hs
    cases shift_inj same
    exact ⟨rfl, within hf (hs.shift a)⟩
  · rintro s t s' t' ⟨rfl, hs⟩ ⟨rfl, ht⟩
    exact ⟨rfl, join hs ht⟩

namespace Expansion

/-- What makes all of expansion keep a relation between a computation in one setting and a computation
in another, with a text at hand. -/
structure Congruence (Rel : Source → ∀ ⦃α : Type⦄, Expansion α → Expansion α → Prop)
    (clean : Source → Fragment → Prop) (placed : Source → Span → Prop) (s s' : Setting) : Prop where
  /-- The same calls are there. -/
  library : s'.library = s.library
  /-- The same nodes are there. -/
  story : s'.story = s.story
  /-- Parts of clean fragments are clean. -/
  piece : ∀ {source f g}, f.PartOf g → clean source g → clean source f
  /-- The nodes that can be included are clean. -/
  nodes : ∀ {name content}, s.story.node? name = some (.markup content) →
    clean ⟨name, content⟩ (.ofString content)
  /-- Failures can be expected in clean fragments. -/
  within : ∀ {source f span}, clean source f → span.Within f → placed source span
  /-- And between two places where they can be expected. -/
  join : ∀ {source a b}, placed source a → placed source b → placed source (a.join b)
  /-- A value is related to itself. -/
  value : ∀ {source} {α : Type} (a : α), Rel source (pure a) (pure a)
  /-- A failure where one can be expected is related to itself. -/
  flaw : ∀ {source} {α : Type} (flaw : Flaw), placed source flaw.span →
    Rel source (ofFlaw (.error flaw) : Expansion α) (ofFlaw (.error flaw))
  /-- Looking at the state is related to itself. -/
  state : ∀ {source}, Rel source get get
  /-- What is chosen by the settings. -/
  setting : ∀ {source} {β : Type} {f g : Setting → Expansion β}, Rel source (f s) (g s') →
    Rel source (read >>= f) (read >>= g)
  /-- Sequences, where the second parts are given what the first part can return. -/
  sequence : ∀ {source} {α β : Type} {x y : Expansion α} {f g : α → Expansion β}, Rel source x y →
    (∀ a, Returns s x a → Rel source (f a) (g a)) → Rel source (x >>= f) (y >>= g)
  /-- Links may be added. -/
  link : ∀ {source} l, Rel source (addLink l) (addLink l)
  /-- If a call that changes the state can be reached, the relation allows for it. -/
  changes : ∀ {source offset name b}, s.library.find? name = some b →
    clean source ⟨offset, callHead name⟩ → b.changesState = true → Writes (Rel source)
  /-- A map drops the bindings it pushed. -/
  element : ∀ {source} {α : Type} {x y : Expansion α} {frame : Mapping Value}, Rel source x y →
    Rel source (borrowing (·.push frame) (fun p _ => p.pop) x)
      (borrowing (·.push frame) (fun p _ => p.pop) y)
  /-- An inclusion turns to the text of a node. It gives back text and scope, drops its links and notes
  the node if it fails. -/
  inclusion : ∀ {source} {α : Type} {x y : Expansion α} {name content : String}
    {context : List Value}, s.story.node? name = some (.markup content) → Rel ⟨name, content⟩ x y →
    Rel source
      (mapFault (·.inNode name) (borrowing (·.enter ⟨name, content⟩ context) Progress.leave x))
      (mapFault (·.inNode name) (borrowing (·.enter ⟨name, content⟩ context) Progress.leave y))

section

variable {Rel : Source → ∀ ⦃α : Type⦄, Expansion α → Expansion α → Prop}
  {clean : Source → Fragment → Prop} {placed : Source → Span → Prop} {s s' : Setting}
  (rule : Congruence Rel clean placed s s') {α : Type} {source : Source}

include rule

/-- A congruence is a simulation in which everything corresponds to itself. -/
theorem Congruence.simulation :
    Simulation Rel (fun source => Fragment.Only (clean source)) (fun source => Span.Only (placed source))
      (fun _ => Eq) s s' where
  library := rule.library
  matching := .only rule.piece rule.within rule.join
  commands_refl _ := rfl
  nodes name := by
    rw [rule.story]
    cases hnode : s.story.node? name with
    | none => exact .none
    | some node =>
        cases node with
        | fixed content links => exact .some .fixed
        | markup content =>
            have matching : Matching (Fragment.Only (clean ⟨name, content⟩))
                (Span.Only (placed ⟨name, content⟩)) :=
              .only rule.piece rule.within rule.join
            exact .some (.markup (matching.scan (fun _ => rfl) ⟨rfl, rule.nodes hnode⟩))
  value := rule.value
  flaw := by
    rintro source α ⟨cause, span, call⟩ ⟨_, _, _⟩ rfl rfl ⟨rfl, place⟩
    exact rule.flaw _ place
  state h := rule.sequence rule.state fun p _ => h p.scope p.world
  setting := rule.setting
  sequence := rule.sequence
  link := by
    rintro source label target context cs _ rfl
    exact rule.sequence rule.state fun _ _ =>
      rule.sequence (rule.link _) fun _ _ => rule.value label
  changes hb head := rule.changes hb head.2
  element := rule.element
  inclusion := by
    intro source α x y name content content' context hnode hnode' h
    rw [rule.story, hnode] at hnode'
    cases hnode'
    exact rule.inclusion hnode h

/-- Failures can be expected at a call. -/
theorem Congruence.call_placed {c : Call} (hc : c.Clean (clean source)) : placed source c.span :=
  rule.within hc.source (Fragment.PartOf.refl _).span_within

theorem related_fail (cause : Cause) {span : Span} (h : placed source span) :
    Rel source (fail cause span : Expansion α) (fail cause span) :=
  rule.flaw (.of cause span) h

/-! ## Two callers

From here on there are two callers, which are related on clean calls. -/

variable {call call' : Caller}
  (hcall : ∀ source c, c.Clean (clean source) → Rel source (call c) (call' c))

include hcall

omit rule in
theorem related_call (source : Source) (c c' : Call)
    (h : c.Alike (Fragment.Only (clean source)) c') : Rel source (call c) (call' c') := by
  obtain ⟨rfl, hc⟩ := Call.alike_only_iff.mp h
  exact hcall source _ hc

/-- The value of a clean fragment. -/
theorem related_evaluate {f : Fragment} (hf : clean source f) :
    Rel source (evaluate call f) (evaluate call' f) :=
  rule.simulation.related_evaluate (related_call hcall) ⟨rfl, hf⟩

theorem related_markup {f : Fragment} (hf : clean source f) :
    Rel source (markup call f) (markup call' f) :=
  rule.simulation.related_markup (related_call hcall) ⟨rfl, hf⟩

/-- **What a clean call stands for is related, if the calls it makes are.** -/
theorem related_dispatch {c : Call} (hc : c.Clean (clean source)) :
    Rel source (dispatch call c) (dispatch call' c) :=
  rule.simulation.related_dispatch (related_call hcall) (Call.alike_only_iff.mpr ⟨rfl, hc⟩)

end

end Expansion

end Fiction
