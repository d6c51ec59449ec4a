import Fiction.Proofs.Expansion.Positions
import Fiction.Proofs.Session.Run
import Fiction.Proofs.Story.Manuscript

/-!
# Fiction.Proofs.Session.Positions

**Errors point into the text they name**, whatever is asked of a session and whatever happened before.

* `renderIn_located` and `traverseIn_inBounds` are the faults of working on a world: rendering
  expands the text of a node, and following a link expands its commands, which are texts of their own.
* `perform_located` is one request, and `run_located` is the induction over a run.
-/

namespace Fiction

/-- The node that a request shows. -/
def Request.shows? (story : Story) : Request → Option String
  | .start => some story.start
  | .render node | .preview node => some node
  | .traverse _ | .evaluate _ | .reset _ | .snapshot | .restore _ => none

theorem Reply.rendered_fault?_eq {x : Except Fault Rendered} {fault : Fault} :
    (Reply.rendered x).fault? = some fault ↔ x = .error fault := by
  cases x with
  | ok r => simp [Reply.fault?]
  | error inner => simp [Reply.fault?]

theorem Reply.value_fault?_eq {x : Except Fault Value} {fault : Fault} :
    (Reply.value x).fault? = some fault ↔ x = .error fault := by
  cases x with
  | ok v => simp [Reply.fault?]
  | error inner => simp [Reply.fault?]

/-- A fault about the whole of a text. -/
theorem Fault.inBounds_whole (name text : String) (phase : Phase) (cause : Cause) :
    (Fault.ofFlaw ⟨name, text⟩ phase (.of cause ⟨0, text.utf8ByteSize⟩)).InBounds :=
  ⟨Nat.zero_le _, Nat.le_refl _⟩

namespace Expansion

variable {α β : Type} {s : Setting} {P : Fault → Prop}

/-! ## Commands -/

/-- Wherever a computation fails, the fault has a property. -/
def FailsOnly (P : Fault → Prop) (s : Setting) (x : Expansion α) : Prop :=
  ∀ p fault, (x.runIn s p).1 = .error fault → P fault

namespace FailsOnly

variable {x : Expansion α} {f : α → Expansion β}

theorem pure (a : α) : FailsOnly P s (pure a) := by
  rintro p fault ⟨⟩

theorem change (path : Path) (f : Store → Outcome α × Store) : FailsOnly P s (change path f) := by
  intro p fault h
  rw [runIn_change] at h
  cases h

theorem bind (hx : FailsOnly P s x) (hf : ∀ a, FailsOnly P s (f a)) : FailsOnly P s (x >>= f) := by
  intro p fault h
  have failed := hx p
  rw [runIn_bind] at h
  generalize x.runIn s p = result at h failed
  obtain ⟨r, q⟩ := result
  cases r with
  | ok a => exact hf a q fault h
  | error inner =>
      cases h
      exact failed fault rfl

theorem mapFault {h : Fault → Fault} (hx : FailsOnly P s x) (hh : ∀ fault, P fault → P (h fault)) :
    FailsOnly P s (mapFault h x) := by
  intro p fault failed
  have inner := hx p
  rw [runIn_mapFault] at failed
  generalize x.runIn s p = result at failed inner
  obtain ⟨r, q⟩ := result
  cases r with
  | ok a => cases failed
  | error raised =>
      cases failed
      exact hh raised (inner raised rfl)

theorem forM {xs : List α} {f : α → Expansion PUnit} (h : ∀ a, FailsOnly P s (f a)) :
    FailsOnly P s (xs.forM f) := by
  induction xs with
  | nil => exact FailsOnly.pure _
  | cons a xs ih =>
      rw [List.forM_eq_forM, List.forM_cons]
      exact (h a).bind fun _ => ih

end FailsOnly

/-- What a literal command cannot do is left to its caller. -/
theorem literalCommand_failsOnly (command : Command) (verb : Verb) (path : Path)
    (value : Option Value) : FailsOnly P s (literalCommand command verb path value) := by
  unfold literalCommand
  split
  · exact FailsOnly.change path _
  · exact (FailsOnly.change path _).bind fun _ => FailsOnly.pure _
  · exact (FailsOnly.change path _).bind fun _ => FailsOnly.pure _
  · exact FailsOnly.pure _

/-- The faults of a command point into its text, or into the text of a node that it includes. -/
theorem runCommand_inBounds (command : Command) :
    FailsOnly Fault.InBounds s (runCommand command) := by
  cases command with
  | call verb text =>
      intro p fault h
      -- the text at hand is the one that is expanded
      have here : InSource (p.enterCommand text).source (.ofString text) := Fragment.PartOf.refl _
      rw [runCommand, runIn_borrowing, runIn_bind] at h
      rcases hrun : (markupTop (.ofString text)).runIn s (p.enterCommand text) with ⟨r, q⟩
      rw [hrun] at h
      cases r with
      | ok a => cases h
      | error inner =>
          cases h
          exact (located_markupTop here (congrArg Prod.fst hrun)).inBounds
  | literal verb path value =>
      refine (literalCommand_failsOnly _ verb path value).bind fun result => ?_
      split
      · exact FailsOnly.pure _
      · next cause =>
          intro p fault h
          rw [runIn_bind, runIn_get] at h
          cases h
          -- a literal command is reported with its own text, all of it
          exact Fault.inBounds_whole "command" _ p.phase cause

end Expansion

namespace Session

open Expansion

variable {s : Session} {world : World} {fault : Fault}

/-! ## Working on a world -/

/-- Where a node is rendered that there is, faults are at this node or at one that is included. -/
theorem renderIn_located {name : String} {context : List Value}
    (h : (s.renderIn world name context).1 = .error fault) :
    fault.InBounds ∧ (s.story.hasNode name = true → fault.AtNode s.story) := by
  unfold renderIn at h
  split at h
  · next missing =>
      cases h
      refine ⟨⟨Nat.zero_le _, Nat.le_refl _⟩, fun there => ?_⟩
      rw [Story.hasNode, Mapping.contains, ← Story.node?, missing] at there
      cases there
  · next body hbody =>
      dsimp only at h
      split at h
      · cases h
      · next content =>
          split at h
          · cases h
          · next inner p hfailed =>
              cases h
              have here : InSource ⟨name, content⟩ (.ofString content) := Fragment.PartOf.refl _
              have located : inner.Located s.story ⟨name, content⟩ :=
                located_markupTop here (congrArg Prod.fst hfailed)
              exact ⟨located.inBounds, fun _ => located.inNode hbody⟩

theorem runCommands_inBounds {link : Link} (h : (s.runCommands world link).1 = .error fault) :
    fault.InBounds := by
  have noted (c : Command) : FailsOnly Fault.InBounds ⟨s.story, s.library, s.settings.maxDepth⟩
      (mapFault (·.inNode link.origin) (runCommand c)) :=
    (runCommand_inBounds c).mapFault fun _ h => h
  exact FailsOnly.forM noted _ fault h

theorem traverseIn_inBounds {link : Link} (h : (s.traverseIn world link).1 = .error fault) :
    fault.InBounds := by
  unfold traverseIn at h
  split at h
  · cases h
    exact ⟨Nat.le_refl _, Nat.le_refl _⟩
  · split at h
    · exact (renderIn_located h).1
    · next inner _ hfailed =>
        cases h
        exact runCommands_inBounds (congrArg Prod.fst hfailed)

/-! ## Requests and runs -/

theorem transaction_fst {α : Type} (s : Session) (work : World → Except Fault α × World) :
    (s.transaction work).1 = (work s.world).1 := by
  unfold transaction
  split
  · next heq => rw [heq]
  · next heq => rw [heq]

theorem evaluate_inBounds {expression : String} (h : s.evaluate expression = .error fault) :
    fault.InBounds := by
  have here : InSource ⟨"expression", expression⟩ (.ofString expression) := Fragment.PartOf.refl _
  unfold evaluate at h
  have located : fault.Located s.story ⟨"expression", expression⟩ := located_evaluateTop here h
  exact located.inBounds

theorem traverse_inBounds {link : Link} (h : (s.traverse link).1 = .error fault) :
    fault.InBounds := by
  unfold traverse at h
  split at h
  · cases h
    exact ⟨Nat.le_refl _, Nat.le_refl _⟩
  · rw [transaction_fst] at h
    exact traverseIn_inBounds h

theorem render_located {node : String} (h : (s.render node).1 = .error fault) :
    fault.InBounds ∧ (s.story.hasNode node = true → fault.AtNode s.story) := by
  unfold render at h
  rw [transaction_fst] at h
  exact renderIn_located h

/-- The faults of one request. -/
theorem perform_located {request : Request} (h : (s.perform request).1.fault? = some fault) :
    fault.InBounds ∧ ∀ node ∈ request.shows? s.story, s.story.hasNode node = true →
      fault.AtNode s.story := by
  -- what is the same for the requests that show a node
  have shown {node : String}
      (h : fault.InBounds ∧ (s.story.hasNode node = true → fault.AtNode s.story)) :
      fault.InBounds ∧ ∀ n ∈ some node, s.story.hasNode n = true → fault.AtNode s.story :=
    ⟨h.1, fun _ same => Option.some.inj same ▸ h.2⟩
  cases request with
  | start => exact shown (render_located (Reply.rendered_fault?_eq.mp h))
  | render node => exact shown (render_located (Reply.rendered_fault?_eq.mp h))
  | preview node => exact shown (renderIn_located (Reply.rendered_fault?_eq.mp h))
  | traverse link => exact ⟨traverse_inBounds (Reply.rendered_fault?_eq.mp h), nofun⟩
  | evaluate expression => exact ⟨evaluate_inBounds (Reply.value_fault?_eq.mp h), nofun⟩
  | reset | snapshot | restore => cases h

/-- The faults of a run. The story is the same for all its requests. -/
theorem run_located {requests : List Request} {exchange : Exchange}
    (hmem : exchange ∈ (s.run requests).1) (h : exchange.2.fault? = some fault) :
    fault.InBounds ∧ ∀ node ∈ exchange.1.shows? s.story, s.story.hasNode node = true →
      fault.AtNode s.story := by
  induction requests generalizing s with
  | nil => cases hmem
  | cons request rest ih =>
      rw [run_cons] at hmem
      rcases List.mem_cons.mp hmem with rfl | later
      · exact perform_located h
      · have located := ih later
        rwa [perform_story] at located

end Session

/-- **Errors point into the text they name.** In every run of every session the range of an error lies
in its text; where a node was to be shown that there is, the error notes a node and its text is the
one of this node. An included node passes on what went wrong in it, so the node is the innermost one.
Errors of manuscripts point into the normal form. -/
theorem faults_point_into_their_texts :
    (∀ (s : Session) (requests : List Request), ∀ exchange ∈ (s.run requests).1,
      ∀ fault ∈ exchange.2.fault?, fault.InBounds ∧
        ∀ node ∈ exchange.1.shows? s.story, s.story.hasNode node = true → fault.AtNode s.story) ∧
    (∀ (s : Setting) (room : Nat) (c : Call) (content : String) (context : List Value)
      (p q : Progress), s.library.find? c.name = none →
      s.story.node? c.name = some (.markup content) →
      (Expansion.inclusionContext (Expansion.callWith room) c).runIn s p.deeper = (.ok context, q) →
      ∀ fault, ((Expansion.callWith (room + 1) c).runIn s p).1 = .error fault ↔
        ∃ inner, ((Expansion.markup (Expansion.callWith room) (.ofString content)).runIn s
            (q.enter ⟨c.name, content⟩ context)).1 = .error inner ∧
          fault = (inner.inNode c.name).inCall c.name) ∧
    ∀ (source : Source) (fault : Fault), Manuscript.parse source = .error fault →
      fault.source = ⟨source.name, String.ofList (Manuscript.normalize source.text.toList)⟩ ∧
        fault.InBounds := by
  refine ⟨fun s requests exchange hmem fault h => Session.run_located hmem h, ?_, ?_⟩
  · intro s room c content context p q hname hnode hargs
    exact Expansion.runIn_callWith_error_iff hname hnode hargs
  · exact fun source fault h => Manuscript.parse_inBounds h

/-- A story whose first node includes one with a call of nothing. -/
def cellarSession : Session where
  story := { Story.new "hall" with
    nodes := [("hall", .markup "It is dark. (cellar~ 1)"),
      ("cellar", .markup "Stairs (nowhere~) down")] }
  library := .standard
  settings := {}
  world := .start .empty (some 7) default

/-- What goes wrong there. -/
def cellarFault : Fault where
  cause := .unknownCall "nowhere"
  source := ⟨"cellar", "Stairs (nowhere~) down"⟩
  span := ⟨7, 17⟩
  phase := .render
  node := some "cellar"
  call := some "nowhere"

/-- The call that includes the second node. -/
def cellarCall : Call :=
  ⟨"cellar", [⟨20, [' ', '1']⟩], ⟨12, "(cellar~ 1)".toList⟩⟩

def cellarSetting : Setting :=
  ⟨cellarSession.story, .standard, 10⟩

def cellarProgress : Progress where
  phase := .render
  source := ⟨"hall", "It is dark. (cellar~ 1)"⟩
  scope := ⟨⟨"hall", none, [], true, [], .unfolding⟩, [], .empty⟩
  links := []
  depth := 0
  world := .start .empty (some 7) default

/-- A manuscript with two nodes of the same name, a comment and line ends of two characters. -/
def twiceSource : Source :=
  ⟨"tale", "% start: hall \x60\x60 the start\r\n# hall\r\nHello.\r\n# hall\r\nAgain.\r\n"⟩

/-- It is the second node that is wrong. -/
def twiceFault : Fault where
  cause := .invalidStory (.twice "hall")
  source := ⟨"tale", "% start: hall \n# hall\nHello.\n# hall\nAgain.\n"⟩
  span := ⟨29, 43⟩
  phase := .load
  node := none
  call := none

/-- The fault is in the text of the included node and not in the one that was to be shown, and the
manuscript is wrong at a place of its normal form. -/
theorem cellar_faults_point_into_their_texts :
    ((cellarSession.perform .start).1.fault? = some cellarFault ∧ cellarFault.InBounds ∧
      cellarFault.AtNode cellarSession.story) ∧
    (((Expansion.callWith 10 cellarCall).runIn cellarSetting cellarProgress).1 = .error cellarFault ∧
      ∃ inner, ((Expansion.markup (Expansion.callWith 9)
          (.ofString "Stairs (nowhere~) down")).runIn cellarSetting (cellarProgress.deeper.enter
            ⟨"cellar", "Stairs (nowhere~) down"⟩ [.int 1])).1 = .error inner ∧
        cellarFault = (inner.inNode "cellar").inCall "cellar") ∧
    Manuscript.parse twiceSource = .error twiceFault ∧ twiceFault.InBounds := by
  obtain ⟨sessions, inclusions, manuscripts⟩ := faults_point_into_their_texts
  have shown : (cellarSession.perform .start).1.fault? = some cellarFault := by decide +kernel
  have included : ((Expansion.callWith 10 cellarCall).runIn cellarSetting cellarProgress).1 =
      .error cellarFault :=
    Outcome.eq_error_of_map (f := fun _ => ()) (by decide +kernel)
  have read : Manuscript.parse twiceSource = .error twiceFault :=
    Outcome.eq_error_of_map (f := fun _ => ()) (by decide +kernel)
  obtain ⟨inBounds, atNode⟩ := sessions cellarSession [.start]
    (.start, (cellarSession.perform .start).1) List.mem_cons_self cellarFault shown
  refine ⟨⟨shown, inBounds, atNode "hall" rfl (by decide +kernel)⟩, ⟨included, ?_⟩, read,
    (manuscripts twiceSource twiceFault read).2⟩
  exact (inclusions cellarSetting 9 cellarCall _ [.int 1] cellarProgress cellarProgress.deeper
    (by decide +kernel) rfl rfl cellarFault).mp included

end Fiction
