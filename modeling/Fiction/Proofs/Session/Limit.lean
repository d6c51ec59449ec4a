import Fiction.Proofs.Expansion.Callers
import Fiction.Proofs.Session.Run

/-!
# Fiction.Proofs.Session.Limit

**A higher limit on nested calls changes nothing but failures at the limit.**

* `follows_callWith` is the heart: with more levels left a call does the same, unless it ran out of
  levels before. Nothing on the way catches that failure, so it is also the outcome as a whole.
* `agree_perform` carries this over to the requests of a session, and `run_withLimit` to runs of any
  length: if no reply is a failure at the limit, a session with a higher limit gives the same replies
  and ends in the same state.
-/

namespace Fiction

/-- Whether calls were nested too deep. -/
def Cause.isLimit : Cause → Bool
  | .recursionLimit _ => true
  | _ => false

/-- An outcome that is no failure at the limit. -/
def WithinLimit {α : Type} (result : Except Fault α) : Prop :=
  ∀ fault, result = .error fault → fault.cause.isLimit = false

/-- A reply that is no failure at the limit. -/
def Reply.WithinLimit (reply : Reply) : Prop :=
  ∀ fault ∈ reply.fault?, fault.cause.isLimit = false

namespace Expansion

variable {α σ : Type}

/-- Outcomes within the limit are the same. -/
theorem Agree.eq {r r' : Except Fault α × σ} (h : Agree (Cause.isLimit ·) r r')
    (hwithin : WithinLimit r.1) : r' = r :=
  h.eq_of fun fault hfault => by simp [hwithin fault hfault]

/-! ## Expansion -/

/-- Two settings that differ at most in the limit, which is not lower in the second. -/
structure Raised (s s' : Setting) : Prop where
  library : s'.library = s.library
  story : s'.story = s.story
  limit : s.limit ≤ s'.limit

variable {s s' : Setting} {d : Nat}

/-- With more levels left a call does the same, unless it runs out of levels. By induction on the
levels left: what a call expands has one less in both settings. -/
theorem follows_callWith (h : Raised s s') {room room' : Nat} (hroom : room ≤ room') (c : Call) :
    Follows (Cause.isLimit ·) d s s' (callWith room c) (callWith room' c) := by
  induction room generalizing room' d c with
  -- without a level left this is the failure that is excused
  | zero => exact fun p hp => ⟨hp, .inr ⟨_, rfl, rfl⟩⟩
  | succ room ih =>
      obtain ⟨more, rfl⟩ : ∃ more, room' = more + 1 := ⟨room' - 1, by omega⟩
      have inner : Follows (Cause.isLimit ·) (d + 1) s s' (dispatch (callWith room) c)
          (dispatch (callWith more) c) :=
        follows_dispatch h.library h.story (ih (Nat.le_of_succ_le_succ hroom)) c
      refine Follows.mapFault (fun _ => rfl) ?_
      exact inner.borrowing (fun p hp => congrArg (· + 1) hp) fun p q _ hq => congrArg Nat.pred hq

/-- What is built on a caller and starts with all the levels that are left. -/
theorem follows_withRoom (h : Raised s s') {x : Caller → Expansion α}
    (hx : ∀ {call call' : Caller},
      (∀ c, Follows (Cause.isLimit ·) d s s' (call c) (call' c)) →
        Follows (Cause.isLimit ·) d s s' (x call) (x call')) :
    Follows (Cause.isLimit ·) d s s' (room >>= fun r => x (callWith r))
      (room >>= fun r => x (callWith r)) := by
  intro p hp
  have hroom : s.limit - p.depth ≤ s'.limit - p.depth := Nat.sub_le_sub_right h.limit _
  rw [runIn_room, runIn_room]
  exact hx (follows_callWith h hroom) p hp

theorem follows_evaluateTop (h : Raised s s') (f : Fragment) :
    Follows (Cause.isLimit ·) d s s' (evaluateTop f) (evaluateTop f) :=
  follows_withRoom h fun hcall => follows_evaluate h.library h.story hcall f

theorem follows_markupTop (h : Raised s s') (f : Fragment) :
    Follows (Cause.isLimit ·) d s s' (markupTop f) (markupTop f) :=
  follows_withRoom h fun hcall => follows_markup h.library h.story hcall f

theorem follows_literalCommand (command : Command) (verb : Verb) (path : Path)
    (value : Option Value) :
    Follows (Cause.isLimit ·) d s s' (literalCommand command verb path value)
      (literalCommand command verb path value) := by
  unfold literalCommand
  split
  · exact .change path _
  · exact (Follows.change path _).bind fun _ _ => .pure _
  · exact (Follows.change path _).bind fun _ _ => .pure _
  · exact .pure _

theorem follows_runCommand (h : Raised s s') (command : Command) :
    Follows (Cause.isLimit ·) d s s' (runCommand command) (runCommand command) := by
  cases command with
  | call _ source =>
      refine Follows.borrowing (fun _ hp => hp) (fun _ _ _ hq => hq) ?_
      exact (follows_markupTop h _).bind fun _ _ => .pure _
  | literal verb path value =>
      refine (follows_literalCommand _ verb path value).bind fun result _ => ?_
      split
      · exact .pure _
      · exact Follows.get.bind fun _ _ => .throw _

end Expansion

/-! ## Sessions -/

namespace Session

open Expansion

/-- Another limit on nested calls. -/
def withLimit (s : Session) (maxDepth : Nat) : Session :=
  { s with settings := { s.settings with maxDepth } }

@[simp] theorem withLimit_story (s : Session) (limit : Nat) : (s.withLimit limit).story = s.story :=
  rfl

@[simp] theorem withLimit_world (s : Session) (limit : Nat) : (s.withLimit limit).world = s.world :=
  rfl

section

variable {α : Type} {s : Session} {limit : Nat} (hle : s.settings.maxDepth ≤ limit)

include hle

theorem agree_expand {x : Expansion α}
    (hx : ∀ {t t' : Setting}, Raised t t' → Follows (Cause.isLimit ·) 0 t t' x x)
    (world : World) (phase : Phase) (source : Source) (surroundings : Surroundings) :
    Agree (Cause.isLimit ·) (s.expand world phase source surroundings x)
      ((s.withLimit limit).expand world phase source surroundings x) := by
  have raised : Raised ⟨s.story, s.library, s.settings.maxDepth⟩ ⟨s.story, s.library, limit⟩ :=
    ⟨rfl, rfl, hle⟩
  exact (hx raised _ rfl).2

/-- Rendering a node. The visit is counted before the text is expanded, with either limit. -/
theorem agree_renderIn (world : World) (name : String) (context : List Value) :
    Agree (Cause.isLimit ·) (s.renderIn world name context)
      ((s.withLimit limit).renderIn world name context) := by
  unfold renderIn
  rw [withLimit_story]
  rcases s.story.node? name with _ | ⟨content⟩ | ⟨content, successors⟩
  · exact .inl rfl
  · dsimp only
    rcases agree_expand hle (fun h => follows_markupTop h (.ofString content)) _ _ _ _
      with same | ⟨fault, hfault, hlimit⟩
    · exact .inl (by rw [same])
    · -- noting the node leaves the cause as it is
      refine .inr ⟨fault.inNode name, ?_, hlimit⟩
      split
      · next heq =>
          rw [heq] at hfault
          cases hfault
      · next heq =>
          rw [heq] at hfault
          cases hfault
          rfl
  · exact .inl rfl

theorem agree_runCommands (world : World) (link : Link) :
    Agree (Cause.isLimit ·) (s.runCommands world link) ((s.withLimit limit).runCommands world link) := by
  have commands {t t' : Setting} (h : Raised t t') : Follows (Cause.isLimit ·) 0 t t'
      (link.commands.forM fun c => mapFault (·.inNode link.origin) (runCommand c))
      (link.commands.forM fun c => mapFault (·.inNode link.origin) (runCommand c)) := by
    refine Follows.forM (fun c => ?_) link.commands
    exact Follows.mapFault (fun _ => rfl) (follows_runCommand h c)
  rcases agree_expand hle commands world .traverse ⟨link.origin, ""⟩
    (surroundingsOf world link.origin world.current) with same | failed
  · exact .inl (congrArg (fun r => (r.1, r.2.world)) same)
  · exact .inr failed

/-- Following a link fails at the limit in one of its commands or in its target. -/
theorem agree_traverseIn (world : World) (link : Link) :
    Agree (Cause.isLimit ·) (s.traverseIn world link) ((s.withLimit limit).traverseIn world link) := by
  unfold traverseIn
  rw [withLimit_story]
  split
  · exact .inl rfl
  · rcases agree_runCommands hle world link with same | ⟨fault, hfault, hlimit⟩
    · rw [same]
      split
      · exact agree_renderIn hle _ _ _
      · exact .inl rfl
    · refine .inr ⟨fault, ?_, hlimit⟩
      split
      · next heq =>
          rw [heq] at hfault
          cases hfault
      · next heq =>
          rw [heq] at hfault
          cases hfault
          rfl

omit hle in
/-- A transaction goes back to the same world if its work comes out the same. -/
theorem agree_transaction {work work' : World → Except Fault α × World}
    (h : Agree (Cause.isLimit ·) (work s.world) (work' s.world)) :
    Agree (Cause.isLimit ·) ((s.transaction work).map id (·.withLimit limit))
      ((s.withLimit limit).transaction work') := by
  unfold transaction
  rw [withLimit_world]
  rcases h with same | ⟨fault, hfault, hlimit⟩
  · rw [same]
    rcases work s.world with ⟨_ | a, world⟩
    · exact .inl rfl
    · exact .inl rfl
  · refine .inr ⟨fault, ?_, hlimit⟩
    rcases hwork : work s.world with ⟨_ | a, world⟩
    · rw [hwork] at hfault
      exact hfault
    · rw [hwork] at hfault
      cases hfault

theorem render_withLimit (node : String) (hwithin : WithinLimit (s.render node).1) :
    (s.withLimit limit).render node = (s.render node).map id (·.withLimit limit) :=
  (agree_transaction (agree_renderIn hle s.world node [])).eq hwithin

theorem traverse_withLimit (link : Link) (hwithin : WithinLimit (s.traverse link).1) :
    (s.withLimit limit).traverse link = (s.traverse link).map id (·.withLimit limit) := by
  unfold traverse at hwithin ⊢
  rw [withLimit_world]
  split
  · rfl
  · next unfinished =>
      rw [if_neg unfinished] at hwithin
      exact (agree_transaction (agree_traverseIn hle s.world link)).eq hwithin

theorem preview_withLimit (node : String) (hwithin : WithinLimit (s.preview node)) :
    (s.withLimit limit).preview node = s.preview node :=
  congrArg Prod.fst ((agree_renderIn hle s.world node []).eq hwithin)

theorem evaluate_withLimit (expression : String) (hwithin : WithinLimit (s.evaluate expression)) :
    (s.withLimit limit).evaluate expression = s.evaluate expression :=
  congrArg Prod.fst
    ((agree_expand hle (fun h => follows_evaluateTop h (.ofString expression)) _ _ _ _).eq hwithin)

/-! ## Runs -/

omit hle in
theorem withinLimit_of_fault? {result : Except Fault Rendered}
    (h : (Reply.rendered result).WithinLimit) : WithinLimit result := by
  rintro fault rfl
  exact h fault rfl

/-- The step of a run. -/
theorem perform_withLimit (request : Request) (hwithin : (s.perform request).1.WithinLimit) :
    (s.withLimit limit).perform request =
      (s.perform request).map id (·.withLimit limit) := by
  cases request with
  | start =>
      have same := render_withLimit hle s.story.start (withinLimit_of_fault? hwithin)
      exact congrArg (Prod.map Reply.rendered id) same
  | render node =>
      have same := render_withLimit hle node (withinLimit_of_fault? hwithin)
      exact congrArg (Prod.map Reply.rendered id) same
  | traverse link =>
      have same := traverse_withLimit hle link (withinLimit_of_fault? hwithin)
      exact congrArg (Prod.map Reply.rendered id) same
  | preview node =>
      have same := preview_withLimit hle node (withinLimit_of_fault? hwithin)
      exact Prod.ext (congrArg Reply.rendered same) rfl
  | evaluate expression =>
      have same := evaluate_withLimit hle expression fun fault h => hwithin fault (by
        rw [perform, h]
        rfl)
      exact Prod.ext (congrArg Reply.value same) rfl
  | reset | snapshot | restore => rfl

/-- Runs, by induction on the requests: each step leaves two sessions that differ in the limit only. -/
theorem run_withLimit (requests : List Request) (hwithin : ∀ e ∈ (s.run requests).1, e.2.WithinLimit) :
    (s.withLimit limit).run requests = (s.run requests).map id (·.withLimit limit) := by
  induction requests generalizing s with
  | nil => rfl
  | cons request rest ih =>
      rw [run_cons] at hwithin
      have step := perform_withLimit hle request (hwithin _ List.mem_cons_self)
      have hle' : (s.perform request).2.settings.maxDepth ≤ limit := by
        rw [perform_settings]
        exact hle
      have tail := ih hle' fun e he => hwithin e (List.mem_cons_of_mem _ he)
      rw [run_cons, run_cons, step]
      dsimp only [Prod.map]
      rw [tail]
      rfl

end

/-- **A higher limit keeps every outcome that is no failure at the limit.** Markup and expressions give
the same value or the same fault, with the same links, variables and chance. Requests give the same
reply and leave the same session but for the limit, and so do runs of them. -/
theorem higher_limit_keeps_outcomes {low high : Nat} (hle : low ≤ high) :
    (∀ story library p f,
      (WithinLimit ((markupTop f).runIn ⟨story, library, low⟩ p).1 →
        (markupTop f).runIn ⟨story, library, high⟩ p =
          (markupTop f).runIn ⟨story, library, low⟩ p) ∧
      (WithinLimit ((evaluateTop f).runIn ⟨story, library, low⟩ p).1 →
        (evaluateTop f).runIn ⟨story, library, high⟩ p =
          (evaluateTop f).runIn ⟨story, library, low⟩ p)) ∧
    ∀ s : Session, s.settings.maxDepth = low →
      (∀ node, WithinLimit (s.render node).1 →
        (s.withLimit high).render node = (s.render node).map id (·.withLimit high)) ∧
      (∀ link, WithinLimit (s.traverse link).1 →
        (s.withLimit high).traverse link = (s.traverse link).map id (·.withLimit high)) ∧
      ∀ requests, (∀ e ∈ (s.run requests).1, e.2.WithinLimit) →
        (s.withLimit high).run requests = (s.run requests).map id (·.withLimit high) := by
  constructor
  · intro story library p f
    have raised : Raised ⟨story, library, low⟩ ⟨story, library, high⟩ := ⟨rfl, rfl, hle⟩
    exact ⟨(follows_markupTop raised f p rfl).2.eq, (follows_evaluateTop raised f p rfl).2.eq⟩
  · rintro s rfl
    exact ⟨render_withLimit hle, traverse_withLimit hle, run_withLimit hle⟩

/-- A playthrough of a story in which one node includes another, with a limit that is just enough for
the hall and not for the cellar. -/
def lampSession : Session where
  story := { Story.new "hall" with
    nodes := [("hall", .markup "You hold (lamp~). [[on|hall|(set~ gold ~ 1)]]"),
      ("lamp", .markup "a (if~ true ~ lit) lamp"), ("cellar", .markup "(hall~)")] }
  library := .standard
  settings := { maxDepth := 2 }
  world := .start .empty (some 7) default

/-- The hall, a node that is not there, and the link of the hall. -/
def lampRequests : List Request :=
  [.start, .render "attic",
    .traverse ⟨"on", "hall", [], [.call .set "(set~ gold ~ 1)"], "hall"⟩]

/-- These requests get the same replies with a limit of 64; the cellar needs more than the two levels
there are. -/
theorem lamp_outcomes_kept :
    (∀ e ∈ (lampSession.run lampRequests).1, e.2.WithinLimit) ∧
      (lampSession.withLimit 64).run lampRequests =
        (lampSession.run lampRequests).map id (·.withLimit 64) ∧
      (lampSession.perform (.render "cellar")).1.fault?.map Fault.cause =
        some (.recursionLimit 2) := by
  have within : ∀ e ∈ (lampSession.run lampRequests).1, e.2.WithinLimit := by
    unfold Reply.WithinLimit
    decide +kernel
  obtain ⟨-, sessions⟩ := higher_limit_keeps_outcomes (show 2 ≤ 64 by decide)
  exact ⟨within, (sessions lampSession rfl).2.2 lampRequests within, by decide +kernel⟩

end Session

end Fiction
