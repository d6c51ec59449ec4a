import Fiction.Session

/-!
# Fiction.Proofs.Session.Run

Sessions as machines that answer requests, and runs of them.

* `Session.run` answers requests one after the other and keeps a log of requests and replies.
* `perform_of_invisible` is the step: a request that fails, and one that only looks, leaves the
  session as it is.
* `Thinned` drops such entries from a log, and **a thinned log is the log of its own requests**: no
  other reply changes, and neither does the session at the end.
-/

namespace Fiction

/-! ## Requests and replies -/

/-- What can be asked of a session. -/
inductive Request where
  | start
  | render (node : String)
  | traverse (link : Link)
  | preview (node : String)
  | evaluate (expression : String)
  /-- To start over, with the state of chance that is drawn in case there is no seed. -/
  | reset (drawn : Chance)
  | snapshot
  | restore (snapshot : Snapshot)

/-- What a session answers. -/
inductive Reply where
  | rendered (result : Except Fault Rendered)
  | value (result : Except Fault Value)
  | snapshot (snapshot : Snapshot)
  | done

/-- Requests that only look at a session. -/
def Request.looks : Request → Bool
  | .preview _ | .evaluate _ | .snapshot => true
  | .start | .render _ | .traverse _ | .reset _ | .restore _ => false

/-- The fault in a reply. -/
def Reply.fault? : Reply → Option Fault
  | .rendered (.error fault) | .value (.error fault) => some fault
  | .rendered (.ok _) | .value (.ok _) | .snapshot _ | .done => none

theorem Reply.fault?_rendered {x : Except Fault Rendered} :
    (Reply.rendered x).fault?.isSome ↔ ∃ fault, x = .error fault := by
  cases x with
  | ok r => simp [Reply.fault?]
  | error fault => simp [Reply.fault?]

theorem Outcome.eq_error_of_map {ε α β : Type} {x : Except ε α} {f : α → β} {e : ε}
    (h : x.map f = .error e) : x = .error e := by
  cases x with
  | ok a => cases h
  | error e' => exact congrArg _ (Except.error.inj h)

/-- A request with its reply. -/
abbrev Exchange := Request × Reply

/-- A request that failed or only looked. -/
def Exchange.Invisible (e : Exchange) : Prop :=
  e.2.fault?.isSome ∨ e.1.looks

namespace Session

/-! ## Rendering -/

/-- The setting in which a session expands. -/
def setting (s : Session) : Setting :=
  ⟨s.story, s.library, s.settings.maxDepth⟩

/-- The state in which the text of a node is expanded when the node is rendered. -/
def arrival (world : World) (name content : String) (context : List Value) : Progress :=
  let arrived := { world.recordVisit name with current := some name }
  { phase := .render
    source := ⟨name, content⟩
    scope := ⟨⟨name, world.current, context, decide (arrived.visitCount name = 1), arrived.visited,
      arrived.status⟩, [], .empty⟩
    links := []
    depth := 0
    world := arrived }

/-- A node with markup is rendered by expanding its text. -/
theorem renderIn_markup {s : Session} {name content : String}
    (hnode : s.story.node? name = some (.markup content)) (world : World) (context : List Value) :
    s.renderIn world name context =
      match (Expansion.markupTop (.ofString content)).runIn s.setting
        (arrival world name content context) with
      | (.ok text, p) => (.ok ⟨name, text, p.links⟩, finish p.world ⟨name, text, p.links⟩)
      | (.error fault, p) => (.error (fault.inNode name), p.world) := by
  unfold renderIn
  rw [hnode]
  rfl

/-! ## Runs -/

/-- Answers a request. -/
def perform (s : Session) : Request → Reply × Session
  | .start => s.start.map .rendered id
  | .render node => (s.render node).map .rendered id
  | .traverse link => (s.traverse link).map .rendered id
  | .preview node => (.rendered (s.preview node), s)
  | .evaluate expression => (.value (s.evaluate expression), s)
  | .reset drawn => (.done, s.reset drawn)
  | .snapshot => (.snapshot s.snapshot, s)
  | .restore snapshot => (.done, s.restore snapshot)

/-- Answers requests one after the other. -/
def run (s : Session) : List Request → List Exchange × Session
  | [] => ([], s)
  | request :: rest =>
      let (reply, next) := s.perform request
      let (log, last) := next.run rest
      ((request, reply) :: log, last)

variable (s : Session)

theorem run_cons (request : Request) (rest : List Request) :
    s.run (request :: rest) =
      ((request, (s.perform request).1) :: ((s.perform request).2.run rest).1,
        ((s.perform request).2.run rest).2) := rfl

/-! ## Only the world changes -/

theorem transaction_world {α : Type} (work : World → Except Fault α × World) :
    (s.transaction work).2 = { s with world := (s.transaction work).2.world } := by
  unfold transaction
  split
  · rfl
  · rfl

theorem traverse_world (link : Link) :
    (s.traverse link).2 = { s with world := (s.traverse link).2.world } := by
  unfold traverse
  split
  · rfl
  · exact s.transaction_world _

/-- No request changes anything but the world. -/
theorem perform_world (request : Request) :
    (s.perform request).2 = { s with world := (s.perform request).2.world } := by
  cases request with
  | start => exact s.transaction_world fun world => s.renderIn world s.story.start []
  | render node => exact s.transaction_world fun world => s.renderIn world node []
  | traverse link => exact s.traverse_world link
  | preview | evaluate | reset | snapshot | restore => rfl

theorem perform_story (request : Request) : (s.perform request).2.story = s.story := by
  rw [perform_world]

theorem perform_settings (request : Request) : (s.perform request).2.settings = s.settings := by
  rw [perform_world]

/-! ## Requests that leave no trace -/

/-- Work that fails is undone. -/
theorem transaction_of_error {α : Type} {work : World → Except Fault α × World} {fault : Fault}
    (h : (s.transaction work).1 = .error fault) : (s.transaction work).2 = s := by
  unfold transaction at h ⊢
  split
  · next a world heq =>
      rw [heq] at h
      cases h
  · rfl

theorem render_of_error {node : String} {fault : Fault} (h : (s.render node).1 = .error fault) :
    (s.render node).2 = s :=
  s.transaction_of_error h

/-- Following a link that cannot be followed leaves the session as it is, whether the story has ended
or the work was undone. -/
theorem traverse_of_error {link : Link} {fault : Fault} (h : (s.traverse link).1 = .error fault) :
    (s.traverse link).2 = s := by
  unfold traverse at h ⊢
  split
  · rfl
  · next ongoing =>
      rw [if_neg ongoing] at h
      exact s.transaction_of_error h

/-- **Requests that fail or only look leave the session as it is.** -/
theorem perform_of_invisible {request : Request}
    (h : Exchange.Invisible (request, (s.perform request).1)) : (s.perform request).2 = s := by
  cases request with
  -- the first three do more than look, so they have failed
  | start =>
      obtain ⟨fault, hfault⟩ := Reply.fault?_rendered.mp (h.resolve_right nofun)
      exact s.render_of_error hfault
  | render node =>
      obtain ⟨fault, hfault⟩ := Reply.fault?_rendered.mp (h.resolve_right nofun)
      exact s.render_of_error hfault
  | traverse link =>
      obtain ⟨fault, hfault⟩ := Reply.fault?_rendered.mp (h.resolve_right nofun)
      exact s.traverse_of_error hfault
  | preview | evaluate | snapshot => rfl
  | reset | restore => exact h.elim nofun nofun

end Session

/-- The second log is the first one without some of its invisible entries. -/
inductive Thinned : List Exchange → List Exchange → Prop where
  | nil : Thinned [] []
  | keep {log kept : List Exchange} (e : Exchange) : Thinned log kept → Thinned (e :: log) (e :: kept)
  | drop {log kept : List Exchange} {e : Exchange} :
      e.Invisible → Thinned log kept → Thinned (e :: log) kept

namespace Session

/-- A thinned log is the log of its own requests, and the session ends as it did. -/
theorem run_of_thinned {s : Session} {requests : List Request} {kept : List Exchange}
    (h : Thinned (s.run requests).1 kept) :
    s.run (kept.map Prod.fst) = (kept, (s.run requests).2) := by
  induction requests generalizing s kept with
  | nil =>
      cases h
      rfl
  | cons request rest ih =>
      rw [run_cons] at h ⊢
      cases h with
      | keep _ h =>
          rw [List.map_cons, run_cons, ih h]
      | drop invisible h =>
          -- the rest of the run starts where this request did
          rw [s.perform_of_invisible invisible] at h ⊢
          exact ih h

/-- **Requests that fail or only look are invisible**: without any of them a run gives the same
replies to the others and ends in the same session. And a request that failed, made again at once,
gets the same reply. -/
theorem invisible_requests_leave_no_trace (s : Session) (requests : List Request) :
    (∀ kept, Thinned (s.run requests).1 kept →
      s.run (kept.map Prod.fst) = (kept, (s.run requests).2)) ∧
    ∀ request fault, ((s.run requests).2.perform request).1.fault? = some fault →
      ((s.run requests).2.perform request).2.perform request = (s.run requests).2.perform request := by
  refine ⟨fun kept => run_of_thinned, fun request fault h => ?_⟩
  rw [perform_of_invisible _ (.inl (by rw [h]; rfl))]

/-- A playthrough of a story with a node that fails after it wrote a variable and drew from chance. -/
def trapSession : Session where
  story := { Story.new "hall" with
    nodes := [("hall", .markup "(random~ 1 ~ 6) [[on|hall]]"),
      ("trap", .markup "(set~ gold ~ 99)(random~ 1 ~ 6)(nowhere~)")] }
  library := .standard
  settings := {}
  world := .start .empty (some 7) default

/-- After the trap and a preview the start is rendered as it is without them. -/
theorem trap_leaves_no_trace :
    (trapSession.perform (.render "trap")).1.fault?.isSome ∧
      trapSession.run [.start] =
        ((trapSession.run [.render "trap", .preview "hall", .start]).1.drop 2,
          (trapSession.run [.render "trap", .preview "hall", .start]).2) := by
  have failed : (trapSession.perform (.render "trap")).1.fault?.isSome := by decide +kernel
  have thinned : Thinned (trapSession.run [.render "trap", .preview "hall", .start]).1
      ((trapSession.run [.render "trap", .preview "hall", .start]).1.drop 2) :=
    .drop (.inl failed) (.drop (.inr rfl) (.keep _ .nil))
  exact ⟨failed, (invisible_requests_leave_no_trace trapSession _).1 _ thinned⟩

end Session

end Fiction
