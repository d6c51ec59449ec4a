import Fiction.Proofs.Expansion.Frame

/-!
# Fiction.Proofs.Expansion.Positions

**Faults point into the text that was being expanded.** Everything in flight, calls and arguments
and links and the bodies of maps, is a fragment of the text at hand and stands at its own position
there. An inclusion turns to another text, and then it is that text.

* `Fault.InBounds`: the range of a fault lies in the text that the fault names.
* `Fault.Located`: a fault of expanding a text is about this text, or about the text of a node that
  was included and that is noted.
* `located_markupTop` and `located_evaluateTop` are the results, by the congruence `Locates`: the
  text at hand is the same before and after, and the faults on the way are located.
* `runIn_callWith_error_iff` says that inclusions pass on what went wrong in them, so that the node
  that is noted is the innermost one.
-/

namespace Fiction

/-! ## Faults and their texts -/

/-- The bytes of a string are those of its characters. -/
theorem Text.byteLength_ofList (cs : List Char) :
    byteLength cs = (String.ofList cs).utf8ByteSize := by
  induction cs with
  | nil => simp
  | cons c cs ih =>
      rw [byteLength_cons, ih, ← List.singleton_append, String.ofList_append,
        String.utf8ByteSize_append, ← String.singleton_eq_ofList, String.utf8ByteSize_singleton]

theorem Fragment.stop_ofString (s : String) : (Fragment.ofString s).stop = s.utf8ByteSize := by
  rw [stop, ofString, Text.byteLength_ofList, String.ofList_toList, Nat.zero_add]

namespace Fault

/-- The range of a fault is a range of the text that the fault names. -/
def InBounds (fault : Fault) : Prop :=
  fault.span.start ≤ fault.span.stop ∧ fault.span.stop ≤ fault.source.text.utf8ByteSize

instance (fault : Fault) : Decidable fault.InBounds :=
  inferInstanceAs (Decidable (_ ∧ _))

/-- The text that a fault names is that of a node, and the fault notes this node. -/
structure AtNode (story : Story) (fault : Fault) : Prop where
  node : fault.node = some fault.source.name
  text : story.node? fault.source.name = some (.markup fault.source.text)

/-- A fault of expanding a text: about this text, with no node noted yet, or about an included one. -/
structure Located (story : Story) (source : Source) (fault : Fault) : Prop where
  inBounds : fault.InBounds
  origin : (fault.node = none ∧ fault.source = source) ∨ fault.AtNode story

variable {story : Story} {source : Source} {fault : Fault}

theorem inBounds_of_within (h : fault.span.Within (.ofString fault.source.text)) : fault.InBounds :=
  ⟨h.ordered, Fragment.stop_ofString fault.source.text ▸ h.upper⟩

/-- The call that failed may be noted. -/
theorem Located.inCall (h : fault.Located story source) (call : String) :
    (fault.inCall call).Located story source :=
  ⟨h.inBounds, h.origin.imp id fun at_ => ⟨at_.node, at_.text⟩⟩

/-- Where the text at hand is that of a node and the node is noted, a fault is at a node. -/
theorem Located.inNode {name content : String} (hnode : story.node? name = some (.markup content))
    (h : fault.Located story ⟨name, content⟩) : (fault.inNode name).AtNode story := by
  -- the text at hand takes the node, and an included one has noted its own
  rcases h.origin with ⟨none, here⟩ | inner
  · have noted : (fault.inNode name).node = some name := by rw [Fault.inNode, none]; rfl
    have text : (fault.inNode name).source = ⟨name, content⟩ := here
    exact ⟨by rw [noted, text], by rw [text, hnode]⟩
  · have kept : (fault.inNode name).node = fault.node := by rw [Fault.inNode, inner.node]; rfl
    exact ⟨kept.trans inner.node, inner.text⟩

end Fault

namespace Expansion

variable {α β : Type} {s : Setting} {source : Source}

/-! ## Computations whose faults are located -/

/-- With a text at hand, it is still at hand afterwards, and what fails is located. As a relation this
looks at the first computation only. -/
def Locates (s : Setting) (source : Source) ⦃α : Type⦄ (x _ : Expansion α) : Prop :=
  ∀ p, p.source = source → (x.runIn s p).2.source = source ∧
    ∀ fault, (x.runIn s p).1 = .error fault → fault.Located s.story source

/-- The text of a fragment stands in the source. -/
def InSource (source : Source) (f : Fragment) : Prop :=
  f.PartOf (.ofString source.text)

/-- The range lies in the source. -/
def SpanInSource (source : Source) (span : Span) : Prop :=
  span.Within (.ofString source.text)

namespace Locates

variable {x y : Expansion α} {f g : α → Expansion β}

/-- What does not fail and leaves the text at hand. -/
theorem of_ok (h : ∀ p, (x.runIn s p).2.source = p.source ∧ ∃ a, (x.runIn s p).1 = .ok a) :
    Locates s source x y := by
  intro p hp
  obtain ⟨kept, a, ok⟩ := h p
  refine ⟨kept.trans hp, fun fault failed => ?_⟩
  rw [ok] at failed
  cases failed

theorem change (path : Path) (f : Store → Outcome α × Store) :
    Locates s source (change path f) (Expansion.change path f) := by
  refine of_ok fun p => ?_
  rw [runIn_change]
  exact ⟨rfl, _, rfl⟩

/-- A failure at a range of the source. -/
theorem flaw {flaw : Flaw} (h : SpanInSource source flaw.span) :
    Locates s source (ofFlaw (.error flaw) : Expansion α) (ofFlaw (.error flaw)) := by
  rintro p rfl
  refine ⟨rfl, ?_⟩
  rintro _ ⟨⟩
  exact ⟨Fault.inBounds_of_within h, .inl ⟨rfl, rfl⟩⟩

theorem bind (hx : Locates s source x y)
    (hf : ∀ a, Returns s x a → Locates s source (f a) (g a)) :
    Locates s source (x >>= f) (y >>= g) := by
  intro p hp
  obtain ⟨kept, located⟩ := hx p hp
  rw [runIn_bind]
  rcases h : x.runIn s p with ⟨r, q⟩
  rw [h] at kept located
  cases r with
  | ok a => exact hf a ⟨p, by rw [h]⟩ q kept
  | error fault =>
      refine ⟨kept, ?_⟩
      rintro _ ⟨⟩
      exact located fault rfl

/-- What is borrowed leaves the text at hand alone. -/
theorem borrowing {enter : Progress → Progress} {leave : Progress → Progress → Progress}
    (henter : ∀ p, (enter p).source = p.source) (hleave : ∀ p q, (leave q p).source = q.source)
    (hx : Locates s source x y) :
    Locates s source (borrowing enter leave x) (Expansion.borrowing enter leave y) := by
  intro p hp
  obtain ⟨kept, located⟩ := hx (enter p) ((henter p).trans hp)
  rw [runIn_borrowing]
  exact ⟨(hleave p _).trans kept, located⟩

theorem mapFault {h : Fault → Fault} (hx : Locates s source x y)
    (hh : ∀ fault, fault.Located s.story source → (h fault).Located s.story source) :
    Locates s source (mapFault h x) (Expansion.mapFault h y) := by
  intro p hp
  obtain ⟨kept, located⟩ := hx p hp
  rw [runIn_mapFault]
  refine ⟨kept, fun fault failed => ?_⟩
  cases hr : (x.runIn s p).1 with
  | ok a =>
      rw [hr] at failed
      cases failed
  | error inner =>
      rw [hr] at failed
      cases failed
      exact hh inner (located inner hr)

/-- An inclusion turns to the text of a node and back, and notes the node. -/
theorem inclusion {name content : String} {context : List Value}
    (hnode : s.story.node? name = some (.markup content)) (hx : Locates s ⟨name, content⟩ x y) :
    Locates s source
      (Expansion.mapFault (·.inNode name)
        (Expansion.borrowing (·.enter ⟨name, content⟩ context) Progress.leave x))
      (Expansion.mapFault (·.inNode name)
        (Expansion.borrowing (·.enter ⟨name, content⟩ context) Progress.leave y)) := by
  intro p hp
  obtain ⟨-, located⟩ := hx (p.enter ⟨name, content⟩ context) rfl
  rw [runIn_mapFault, runIn_borrowing]
  refine ⟨hp, fun fault failed => ?_⟩
  cases hr : (x.runIn s (p.enter ⟨name, content⟩ context)).1 with
  | ok a =>
      rw [hr] at failed
      cases failed
  | error inner =>
      rw [hr] at failed
      cases failed
      exact ⟨(located inner hr).inBounds, .inr ((located inner hr).inNode hnode)⟩

end Locates

/-! ## All of expansion -/

/-- Locating faults is a congruence: fragments are clean that stand in the source, and failures can be
expected where the source is. -/
theorem locates_congruence (s : Setting) : Congruence (Locates s) InSource SpanInSource s s where
  library := rfl
  story := rfl
  piece h hg := h.trans hg
  nodes _ := Fragment.PartOf.refl _
  within hf hspan := hspan.mono hf
  join := Span.Within.join
  value _ := .of_ok fun _ => ⟨rfl, _, rfl⟩
  flaw _ := .flaw
  state := .of_ok fun _ => ⟨rfl, _, rfl⟩
  setting h := Locates.bind (.of_ok fun _ => ⟨rfl, _, rfl⟩) fun a ha => by
    obtain ⟨p, hp⟩ := ha
    cases hp
    exact h
  sequence := .bind
  link _ := .of_ok fun _ => ⟨rfl, _, rfl⟩
  changes _ _ _ := ⟨.change, fun _ => .of_ok fun _ => ⟨rfl, _, rfl⟩⟩
  element := .borrowing (fun _ => rfl) fun _ _ => rfl
  inclusion := .inclusion

/-- Calls locate their faults. By induction on the levels left. -/
theorem locates_callWith (room : Nat) (source : Source) (c : Call) (hc : c.Clean (InSource source)) :
    Locates s source (callWith room c) (callWith room c) := by
  have rule := locates_congruence s
  induction room generalizing source c with
  | zero => exact rule.setting (related_fail rule _ (rule.call_placed hc))
  | succ room ih =>
      rw [callWith]
      refine Locates.mapFault ?_ fun _ h => h.inCall c.name
      exact (related_dispatch rule ih hc).borrowing (fun _ => rfl) fun _ _ => rfl

/-- **The faults of markup are located.** -/
theorem located_markupTop {p : Progress} {f : Fragment} {fault : Fault} (hf : InSource p.source f)
    (h : ((markupTop f).runIn s p).1 = .error fault) : fault.Located s.story p.source := by
  unfold markupTop at h
  rw [runIn_room] at h
  have located : Locates s p.source _ _ :=
    related_markup (locates_congruence s) (locates_callWith (s.limit - p.depth)) hf
  exact (located p rfl).2 fault h

/-- **The faults of expressions are located.** -/
theorem located_evaluateTop {p : Progress} {f : Fragment} {fault : Fault} (hf : InSource p.source f)
    (h : ((evaluateTop f).runIn s p).1 = .error fault) : fault.Located s.story p.source := by
  unfold evaluateTop at h
  rw [runIn_room] at h
  have located : Locates s p.source _ _ :=
    related_evaluate (locates_congruence s) (locates_callWith (s.limit - p.depth)) hf
  exact (located p rfl).2 fault h

/-! ## Inclusions -/

/-- **An inclusion passes on what went wrong in the text of the node**, with this node noted if it is the
innermost one. -/
theorem runIn_callWith_error_iff {room : Nat} {c : Call} {content : String} {context : List Value}
    {p q : Progress} (hname : s.library.find? c.name = none)
    (hnode : s.story.node? c.name = some (.markup content))
    (hargs : (inclusionContext (callWith room) c).runIn s p.deeper = (.ok context, q))
    (fault : Fault) :
    ((callWith (room + 1) c).runIn s p).1 = .error fault ↔
      ∃ inner, ((markup (callWith room) (.ofString content)).runIn s
          (q.enter ⟨c.name, content⟩ context)).1 = .error inner ∧
        fault = (inner.inNode c.name).inCall c.name := by
  rw [callWith, runIn_mapFault, runIn_borrowing, runIn_dispatch_node s hname hnode hargs, inclusion,
    runIn_mapFault, runIn_borrowing, runIn_bind]
  rcases (markup (callWith room) (.ofString content)).runIn s (q.enter ⟨c.name, content⟩ context)
    with ⟨r, after⟩
  cases r with
  | ok text =>
      constructor
      · intro h
        cases h
      · rintro ⟨_, h, -⟩
        cases h
  | error inner =>
      constructor
      · rintro ⟨⟩
        exact ⟨inner, rfl, rfl⟩
      · rintro ⟨_, ⟨⟩, rfl⟩
        rfl

end Expansion

end Fiction
