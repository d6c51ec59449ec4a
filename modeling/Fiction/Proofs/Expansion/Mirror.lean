import Fiction.Proofs.Expansion.Simulation

/-!
# Fiction.Proofs.Expansion.Mirror

**Expansion does not depend on positions, nor on the commands of links.** Two texts with the same
characters are expanded to the same text, with the same changes, wherever they stand. The commands of
links are checked and not run, so nothing but the links themselves depends on them.

* `Link.Alike changed` is two links that are the same, but for the commands of those that come from
  certain nodes. `Progress.Mirror` is two progresses with such links that are otherwise the same.
* `Concur V x y` is two results that are both there and related, or two failures for the same cause.
* `Mirrors` is two computations that take such progresses to such progresses with results that concur.

`mirrors_simulation` has the settings in which all of expansion mirrors, and `mirrors_callWith` is the
induction over the levels.
-/

namespace Fiction

/-! ## Results and links -/

/-- Both results are there and related, or both are failures for the same cause. -/
inductive Concur {α : Type} (V : α → α → Prop) : Except Fault α → Except Fault α → Prop
  | ok {a b : α} : V a b → Concur V (.ok a) (.ok b)
  | error {fault fault' : Fault} : fault'.cause = fault.cause →
      Concur V (.error fault) (.error fault')

theorem Concur.mapError {α : Type} {V : α → α → Prop} {x y : Except Fault α} {f g : Fault → Fault}
    (h : Concur V x y) (hf : ∀ fault, (f fault).cause = fault.cause)
    (hg : ∀ fault, (g fault).cause = fault.cause) : Concur V (x.mapError f) (y.mapError g) := by
  cases h with
  | ok value => exact .ok value
  | error cause => exact .error (((hg _).trans cause).trans (hf _).symm)

theorem Concur.eq_ok {α : Type} {a : α} {y : Except Fault α} (h : Concur Eq (.ok a) y) : y = .ok a := by
  cases h with
  | ok same => rw [same]

/-- The other side fails as well, for the same cause. -/
theorem Concur.exists_error {α : Type} {V : α → α → Prop} {fault : Fault} {y : Except Fault α}
    (h : Concur V (.error fault) y) : ∃ fault', y = .error fault' ∧ fault'.cause = fault.cause := by
  cases h with
  | error cause => exact ⟨_, rfl, cause⟩

/-- Links that are the same, but for the commands if they come from certain nodes. -/
structure Link.Alike (changed : String → Prop) (l l' : Link) : Prop where
  rest : l' = { l with commands := l'.commands }
  commands : ¬ changed l.origin → l'.commands = l.commands

theorem Link.Alike.refl (changed : String → Prop) (l : Link) : Alike changed l l :=
  ⟨rfl, fun _ => rfl⟩

/-- Where no node is changed links are the same. -/
theorem Link.Alike.eq {l l' : Link} (h : Alike (fun _ => False) l l') : l' = l := by
  rw [h.rest, h.commands not_false]

/-- Progresses in one node that differ at most in its text and in the commands of links from certain
nodes. -/
structure Progress.Mirror (changed : String → Prop) (node : String) (p p' : Progress) : Prop where
  name : p.source.name = node
  name' : p'.source.name = node
  phase : p'.phase = p.phase
  scope : p'.scope = p.scope
  depth : p'.depth = p.depth
  world : p'.world = p.world
  links : List.Forall₂ (Link.Alike changed) p.links p'.links

namespace Progress.Mirror

variable {changed : String → Prop} {node : String} {p p' q q' : Progress}

theorem withStores (h : Mirror changed node p p') (locals store : Store) :
    Mirror changed node (p.withStores locals store) (p'.withStores locals store) :=
  { h with
    scope := congrArg (fun scope : Scope => { scope with locals }) h.scope
    world := congrArg (fun world : World => { world with store }) h.world }

theorem withChance (h : Mirror changed node p p') (chance : Chance) :
    Mirror changed node (p.withChance chance) (p'.withChance chance) :=
  { h with world := congrArg (fun world : World => { world with chance }) h.world }

theorem addLink (h : Mirror changed node p p') {label target : String} {context : List Value}
    {cs cs' : List Command} (hcs : ¬ changed node → cs' = cs) :
    Mirror changed node (p.addLink ⟨label, target, context, cs, p.source.name⟩)
      (p'.addLink ⟨label, target, context, cs', p'.source.name⟩) := by
  refine { h with links := List.rel_append h.links (.cons ⟨?_, ?_⟩ .nil) }
  · rw [h.name, h.name']
  · rw [h.name]
    exact hcs

theorem push (h : Mirror changed node p p') (frame : Mapping Value) :
    Mirror changed node (p.push frame) (p'.push frame) :=
  { h with
    scope := congrArg (fun scope : Scope => { scope with bindings := frame :: scope.bindings }) h.scope }

theorem pop (h : Mirror changed node p p') : Mirror changed node p.pop p'.pop :=
  { h with
    scope := congrArg (fun scope : Scope => { scope with bindings := scope.bindings.tail }) h.scope }

theorem deeper (h : Mirror changed node p p') : Mirror changed node p.deeper p'.deeper :=
  { h with depth := congrArg Nat.succ h.depth }

theorem shallower (h : Mirror changed node p p') : Mirror changed node p.shallower p'.shallower :=
  { h with depth := congrArg Nat.pred h.depth }

/-- From here on the node that is included is the one that may have been changed. -/
theorem enter (h : Mirror changed node p p') (name content content' : String)
    (context : List Value) :
    Mirror changed name (p.enter ⟨name, content⟩ context)
      (p'.enter ⟨name, content'⟩ context) :=
  { h with
    name := rfl
    name' := rfl
    scope := congrArg (·.derive context) h.scope }

/-- Behind an inclusion, as many links are dropped on both sides. -/
theorem leave {inner : String} (h : Mirror changed node p p') (hq : Mirror changed inner q q') :
    Mirror changed node (q.leave p) (q'.leave p') := by
  refine { hq with name := h.name, name' := h.name', scope := h.scope, links := ?_ }
  have length : p'.links.length = p.links.length := h.links.length_eq.symm
  unfold Progress.leave
  rw [length]
  exact List.forall₂_take _ hq.links

theorem refl (changed : String → Prop) (p : Progress) : Mirror changed p.source.name p p :=
  ⟨rfl, rfl, rfl, rfl, rfl, rfl, List.forall₂_same.mpr fun l _ => .refl changed l⟩

/-- Where no commands may be different, progresses that mirror are the same but for the text at hand. -/
theorem eq (h : Mirror (fun _ => False) node p p') (hsource : p'.source = p.source) : p' = p := by
  have links : p'.links = p.links := by
    have same := h.links.imp fun _ _ alike => alike.eq.symm
    rw [List.forall₂_eq_eq_eq] at same
    exact same.symm
  obtain ⟨phase, source, scope, linksAt, depth, world⟩ := p
  obtain ⟨phase', source', scope', linksAt', depth', world'⟩ := p'
  cases h.phase
  cases h.scope
  cases h.depth
  cases h.world
  cases hsource
  cases links
  rfl

end Progress.Mirror

/-! ## Settings -/

section

variable {changed : String → Prop}

/-- Fragments with the same characters. -/
def Fragment.SameChars (f f' : Fragment) : Prop :=
  f'.chars = f.chars

/-- Fragments with the same characters correspond, and all ranges do. -/
theorem Matching.sameChars : Matching Fragment.SameChars fun _ _ => True where
  chars h := h
  piece _ _ := rfl
  within _ _ := trivial
  join _ _ := trivial

/-- The commands of links from certain nodes may be different. -/
def CommandsAlike (changed : String → Prop) (source : Source) (cs cs' : List Command) : Prop :=
  ¬ changed source.name → cs' = cs

/-- Texts that are scanned into the same segments, but for their positions and the commands of links. -/
def SameMarkup (changed : String → Prop) (source : Source) (f f' : Fragment) : Prop :=
  Scanned Fragment.SameChars (fun _ _ => True) (CommandsAlike changed source) (Markup.scan f)
    (Markup.scan f')

theorem Fragment.SameChars.sameMarkup {source : Source} {f f' : Fragment} (h : f.SameChars f') :
    SameMarkup changed source f f' :=
  Matching.sameChars.scan (fun _ _ => rfl) h

/-- Changing commands does not break markup. -/
theorem SameMarkup.isOk {source : Source} {f f' : Fragment} (h : SameMarkup changed source f f') :
    (Markup.scan f').isOk = (Markup.scan f).isOk := by
  unfold SameMarkup at h
  generalize Markup.scan f = x, Markup.scan f' = y at h ⊢
  cases h with
  | ok _ => rfl
  | error _ _ _ => rfl

/-- What a story has under a name in two settings: the same, but for the commands of links. -/
def SameNode (changed : String → Prop) (name : String) : Option NodeBody → Option NodeBody → Prop :=
  Option.Rel (NodeBody.Alike fun content content' =>
    SameMarkup changed ⟨name, content⟩ (.ofString content) (.ofString content'))

theorem SameNode.refl (name : String) (node : Option NodeBody) : SameNode changed name node node := by
  cases node with
  | none => exact .none
  | some node =>
      cases node with
      | fixed content links => exact .some .fixed
      | markup content => exact .some (.markup (Fragment.SameChars.sameMarkup rfl))

/-- Settings with the same calls and the same limit. The texts of nodes are the same, but for the
commands of links in certain nodes. -/
structure Setting.Mirror (changed : String → Prop) (s s' : Setting) : Prop where
  library : s'.library = s.library
  limit : s'.limit = s.limit
  nodes : ∀ name, SameNode changed name (s.story.node? name) (s'.story.node? name)

theorem Setting.Mirror.refl (s : Setting) : Mirror changed s s :=
  ⟨rfl, rfl, fun name => .refl name _⟩

end

namespace Expansion

variable {α β : Type} {changed : String → Prop} {s s' : Setting} {source : Source}

/-! ## Computations that mirror -/

/-- From progresses that mirror, `y` ends in one that mirrors the one `x` ends in, and their results
concur. -/
def Mirrors (changed : String → Prop) (s s' : Setting) (source : Source) ⦃α : Type⦄
    (x y : Expansion α) : Prop :=
  ∀ p p', Progress.Mirror changed source.name p p' →
    Concur Eq (x.runIn s p).1 (y.runIn s' p').1 ∧
      Progress.Mirror changed source.name (x.runIn s p).2 (y.runIn s' p').2

namespace Mirrors

variable {x y : Expansion α} {f g : α → Expansion β}

/-- What the first parts return is the same, so the second parts run on the same value. -/
theorem bind (hx : Mirrors changed s s' source x y)
    (hf : ∀ a, Returns s x a → Mirrors changed s s' source (f a) (g a)) :
    Mirrors changed s s' source (x >>= f) (y >>= g) := by
  intro p p' h
  obtain ⟨concur, mirror⟩ := hx p p' h
  rw [runIn_bind, runIn_bind]
  rcases hr : x.runIn s p with ⟨r, q⟩
  rcases hr' : y.runIn s' p' with ⟨r', q'⟩
  rw [hr, hr'] at concur mirror
  cases concur with
  | ok same =>
      cases same
      exact hf _ ⟨p, by rw [hr]⟩ q q' mirror
  | error cause => exact ⟨.error cause, mirror⟩

theorem change (path : Path) (f : Store → Outcome α × Store) :
    Mirrors changed s s' source (change path f) (Expansion.change path f) := by
  intro p p' h
  rw [runIn_change, runIn_change, h.scope, h.world]
  exact ⟨.ok rfl, h.withStores _ _⟩

theorem draw (f : Chance → α × Chance) :
    Mirrors changed s s' source (draw f) (Expansion.draw f) := by
  intro p p' h
  rw [runIn_draw, runIn_draw, h.world]
  exact ⟨.ok rfl, h.withChance _⟩

theorem mapFault {h h' : Fault → Fault} (hx : Mirrors changed s s' source x y)
    (hcause : ∀ fault, (h fault).cause = fault.cause)
    (hcause' : ∀ fault, (h' fault).cause = fault.cause) :
    Mirrors changed s s' source (mapFault h x) (Expansion.mapFault h' y) := by
  intro p p' mirror
  obtain ⟨concur, after⟩ := hx p p' mirror
  rw [runIn_mapFault, runIn_mapFault]
  exact ⟨concur.mapError hcause hcause', after⟩

/-- Both sides may borrow something, if what they borrow and what they give back mirrors. -/
theorem borrowing {inner : Source} {enter enter' : Progress → Progress}
    {leave leave' : Progress → Progress → Progress}
    (henter : ∀ p p', Progress.Mirror changed source.name p p' →
      Progress.Mirror changed inner.name (enter p) (enter' p'))
    (hleave : ∀ p p' q q', Progress.Mirror changed source.name p p' →
      Progress.Mirror changed inner.name q q' →
      Progress.Mirror changed source.name (leave q p) (leave' q' p'))
    (hx : Mirrors changed s s' inner x y) :
    Mirrors changed s s' source (borrowing enter leave x) (Expansion.borrowing enter' leave' y) := by
  intro p p' mirror
  obtain ⟨concur, after⟩ := hx _ _ (henter p p' mirror)
  rw [runIn_borrowing, runIn_borrowing]
  exact ⟨concur, hleave p p' _ _ mirror after⟩

end Mirrors

/-! ## All of expansion -/

/-- Mirroring is a simulation. -/
theorem mirrors_simulation (h : Setting.Mirror changed s s') :
    Simulation (Mirrors changed s s') (fun _ => Fragment.SameChars) (fun _ _ _ => True)
      (CommandsAlike changed) s s' where
  library := h.library
  matching := .sameChars
  commands_refl _ _ := rfl
  nodes := h.nodes
  value _ _ _ mirror := ⟨.ok rfl, mirror⟩
  flaw cause _ _ _ _ mirror := ⟨.error cause, mirror⟩
  state hf p p' mirror := by
    rw [runIn_bind, runIn_bind, runIn_get, runIn_get]
    dsimp only
    rw [mirror.scope, mirror.world]
    exact hf _ _ p p' mirror
  setting hf p p' mirror := by
    rw [runIn_bind, runIn_bind, runIn_read, runIn_read]
    exact hf p p' mirror
  sequence := .bind
  link hcs p p' mirror := ⟨.ok rfl, mirror.addLink hcs⟩
  changes _ _ _ := ⟨.change, .draw⟩
  element := .borrowing (fun _ _ h => h.push _) fun _ _ _ _ _ h => h.pop
  inclusion _ _ hx := Mirrors.mapFault
    (.borrowing (fun _ _ h => h.enter _ _ _ _) (fun _ _ _ _ h hq => h.leave hq) hx)
    (fun _ => rfl) fun _ => rfl

/-- Calls mirror. By induction on the levels left, which are the same. -/
theorem mirrors_callWith (h : Setting.Mirror changed s s') (room : Nat) (source : Source) (c c' : Call)
    (hc : c.Alike Fragment.SameChars c') :
    Mirrors changed s s' source (callWith room c) (callWith room c') := by
  have rule := mirrors_simulation h
  induction room generalizing source c c' with
  | zero =>
      refine rule.setting ?_
      rw [h.limit]
      exact rule.related_fail _ trivial
  | succ room ih =>
      refine Mirrors.mapFault ?_ (fun _ => rfl) fun _ => rfl
      exact .borrowing (fun _ _ h => h.deeper) (fun _ _ _ _ _ h => h.shallower)
        (rule.related_dispatch ih hc)

/-- **Markup with the same segments is expanded in the same way**, in settings that mirror. -/
theorem mirrors_markupTop (h : Setting.Mirror changed s s') {f f' : Fragment}
    (hf : SameMarkup changed source f f') :
    Mirrors changed s s' source (markupTop f) (markupTop f') := by
  intro p p' mirror
  unfold markupTop
  rw [runIn_room, runIn_room, h.limit, mirror.depth]
  exact (mirrors_simulation h).related_scanned (mirrors_callWith h _) hf p p' mirror

end Expansion

end Fiction
