import Fiction.Proofs.Expansion.Frame
import Fiction.Proofs.Session.Run

/-!
# Fiction.Proofs.Session.Bookkeeping

**What a session records about the way taken is what the replies said.** `stopsOf` reads off a log the
nodes that were rendered since the last reset, and `World.Tallies` compares them with a world: the
visits count them in the order of first visits, the current node is the last of them, and the story
has ended if one of them had no links.

* `renderIn_moved` and `traverseIn_moved` say what a request that succeeds does to these three
  records. They rest on the frame of expansion: no text touches the records, however it is nested.
* `perform_tallies` is the step and `run_tallies` the induction over a run.
-/

namespace Fiction

/-! ## Tables of counts -/

namespace Mapping

variable {α : Type}

theorem get?_map_self (names : List String) (f : String → α) (key : String) :
    get? (names.map fun name => (name, f name)) key =
      if key ∈ names then some (f key) else none := by
  induction names with
  | nil => rfl
  | cons name rest ih =>
      rw [List.map_cons, get?_cons, ih]
      by_cases h : name = key
      · simp [h]
      · simp [h, Ne.symm h]

/-- Inserting into a table of a function changes the function at the key. -/
theorem insert_map_self {names : List String} (distinct : names.Nodup) (f : String → α)
    (key : String) (value : α) :
    insert (names.map fun name => (name, f name)) key value =
      (if key ∈ names then names else names ++ [key]).map fun name =>
        (name, if name = key then value else f name) := by
  induction names with
  | nil => simp [insert]
  | cons name rest ih =>
      obtain ⟨fresh, distinct⟩ := List.nodup_cons.mp distinct
      rw [List.map_cons, insert]
      by_cases h : name = key
      · subst h
        -- the key does not occur again, so nothing behind it changes
        have others : ∀ other ∈ rest, (other, f other) =
            (other, if other = name then value else f other) := by
          intro other hother
          have different : other ≠ name := fun same => fresh (same ▸ hother)
          rw [if_neg different]
        simp [List.map_congr_left others]
      · rw [if_neg h, ih distinct]
        by_cases hmem : key ∈ rest
        · simp [h, hmem]
        · simp [h, hmem, Ne.symm h]

end Mapping

/-- Names with how often they occur, in the order of first occurrence. -/
def tally (names : List String) : Mapping Nat :=
  names.eraseDups.map fun name => (name, names.count name)

/-- The counts of a tally as they are recorded, in 32 bits. -/
def recorded (names : List String) : Mapping UInt32 :=
  (tally names).map fun entry => (entry.1, .ofNat entry.2)

theorem recorded_eq (names : List String) :
    recorded names = names.eraseDups.map fun name => (name, .ofNat (names.count name)) := by
  rw [recorded, tally, List.map_map]
  rfl

/-- Counts are exact as long as there are not too many names. -/
theorem map_toNat_recorded {names : List String} (h : names.length < UInt32.size) :
    (recorded names).map (fun entry => (entry.1, entry.2.toNat)) = tally names := by
  rw [recorded_eq, List.map_map]
  refine List.map_congr_left fun name _ => ?_
  have bound : names.count name < UInt32.size := List.count_le_length.trans_lt h
  exact congrArg (name, ·) (UInt32.toNat_ofNat_of_lt' bound)

theorem eraseDups_concat (names : List String) (name : String) :
    (names ++ [name]).eraseDups =
      if name ∈ names.eraseDups then names.eraseDups else names.eraseDups ++ [name] := by
  rw [List.eraseDups_append]
  by_cases h : name ∈ names
  · simp [List.removeAll, h]
  · simp [List.removeAll, h, List.eraseDups_cons]

theorem nodup_eraseDups (names : List String) : names.eraseDups.Nodup := by
  induction names using List.reverseRecOn with
  | nil => exact List.nodup_nil
  | append_singleton names name ih =>
      rw [eraseDups_concat]
      split
      · exact ih
      · next fresh =>
          have apart : ∀ other ∈ names.eraseDups, other ≠ name :=
            fun other hother same => fresh (same ▸ hother)
          simpa [List.nodup_append, ih] using apart

/-- What a table says of a name, if zero stands for its absence. -/
theorem getD_get?_recorded (names : List String) (name : String) :
    (Mapping.get? (recorded names) name).getD 0 = .ofNat (names.count name) := by
  rw [recorded_eq, Mapping.get?_map_self]
  by_cases h : name ∈ names
  · simp [h]
  · simp [h, List.count_eq_zero_of_not_mem h]

/-- One more occurrence is one more insertion. -/
theorem recorded_concat (names : List String) (name : String) :
    recorded (names ++ [name]) =
      Mapping.insert (recorded names) name (.ofNat (names.count name) + 1) := by
  rw [recorded_eq, recorded_eq, Mapping.insert_map_self (nodup_eraseDups names), eraseDups_concat]
  refine List.map_congr_left fun other _ => ?_
  by_cases h : other = name
  · simp [h]
  · simp [h, Ne.symm h]

/-! ## What requests do to the records -/

/-- Visits, position and status are the same. -/
structure World.Unmoved (before after : World) : Prop where
  visits : after.visits = before.visits
  current : after.current = before.current
  status : after.status = before.status

/-- A node of the story was rendered as the next stop. -/
structure World.Moved (story : Story) (name : String) (r : Rendered) (before after : World) :
    Prop where
  node : story.hasNode name
  visits : after.visits = (before.recordVisit name).visits
  current : after.current = some name
  status : after.status = if r.isEnding then .finished else before.status

theorem World.Unmoved.moved {story : Story} {name : String} {r : Rendered} {before between after : World}
    (h : Unmoved before between) (h' : Moved story name r between after) :
    Moved story name r before after where
  node := h'.node
  visits := by
    rw [h'.visits, recordVisit, recordVisit, visitCount, visitCount, h.visits]
  current := h'.current
  status := by rw [h'.status, h.status]

namespace Session

open Expansion Progress World

variable {s : Session} {world after : World} {r : Rendered}

theorem expand_unmoved {α : Type} {x : Expansion α} {phase : Phase} {source : Source}
    {surroundings : Surroundings} {result : Except Fault α} {p : Progress}
    (hx : ∀ setting, Keeps Restored setting x)
    (h : s.expand world phase source surroundings x = (result, p)) : Unmoved world p.world := by
  have restored := (hx ⟨s.story, s.library, s.settings.maxDepth⟩
    ⟨phase, source, ⟨surroundings, [], .empty⟩, [], 0, world⟩).1
  rw [← expand, h] at restored
  exact ⟨restored.visits, restored.current, restored.status⟩

theorem runCommands_unmoved {link : Link} {result : Except Fault Unit}
    (h : s.runCommands world link = (result, after)) : Unmoved world after := by
  have commands (setting : Setting) : Keeps Restored setting
      (link.commands.forM fun c => mapFault (·.inNode link.origin) (runCommand c)) :=
    Keeps.forM fun command _ => (runCommand_restores setting command).mapFault
  obtain ⟨rfl, rfl⟩ := h
  exact expand_unmoved commands rfl

theorem finish_eq (world : World) (r : Rendered) :
    finish world r =
      { world with status := if r.isEnding then .finished else world.status } := by
  unfold finish
  split
  · rfl
  · rfl

/-- A visit is recorded before the text is expanded, and the text cannot change the record. -/
theorem renderIn_moved {name : String} {context : List Value}
    (h : s.renderIn world name context = (.ok r, after)) : Moved s.story name r world after := by
  unfold renderIn at h
  split at h
  · cases h
  · next body hbody =>
      have node : s.story.hasNode name := by
        rw [Story.hasNode, Mapping.contains, ← Story.node?, hbody]
        rfl
      dsimp only at h
      split at h
      -- a fixed node: nothing is expanded
      · obtain ⟨rfl, rfl⟩ := h
        rw [finish_eq]
        exact ⟨node, rfl, rfl, rfl⟩
      · next content =>
          split at h
          · next text p hp =>
              obtain ⟨rfl, rfl⟩ := h
              -- the world at hand here is the one in which the visit is recorded already
              have unmoved := expand_unmoved (markupTop_restores · _) hp
              rw [finish_eq]
              refine ⟨node, unmoved.visits, unmoved.current, ?_⟩
              rw [unmoved.status]
              rfl
          · cases h

theorem traverseIn_moved {link : Link} (h : s.traverseIn world link = (.ok r, after)) :
    Moved s.story link.target r world after := by
  unfold traverseIn at h
  split at h
  · cases h
  · split at h
    · next hcommands => exact (runCommands_unmoved hcommands).moved (renderIn_moved h)
    · cases h

/-- Work that succeeds leaves the world it ended in. -/
theorem transaction_of_ok {α : Type} {work : World → Except Fault α × World} {a : α}
    (h : (s.transaction work).1 = .ok a) :
    work s.world = (.ok a, (s.transaction work).2.world) := by
  unfold transaction at h ⊢
  split
  · next b world heq =>
      rw [heq] at h ⊢
      exact congrArg (·, world) h
  · next fault world heq =>
      rw [heq] at h
      cases h

theorem render_moved {node : String} (h : (s.render node).1 = .ok r) :
    Moved s.story node r s.world (s.render node).2.world :=
  renderIn_moved (transaction_of_ok h)

theorem traverse_moved {link : Link} (h : (s.traverse link).1 = .ok r) :
    Moved s.story link.target r s.world (s.traverse link).2.world := by
  unfold traverse at h ⊢
  split
  · next ended =>
      rw [if_pos ended] at h
      cases h
  · next ongoing =>
      rw [if_neg ongoing] at h
      exact traverseIn_moved (transaction_of_ok h)

end Session

/-! ## The way taken -/

/-- The node that a request moves to. -/
def Request.destination? (story : Story) : Request → Option String
  | .start => some story.start
  | .render node => some node
  | .traverse link => some link.target
  | .preview _ | .evaluate _ | .reset _ | .snapshot | .restore _ => none

/-- A node that was moved to, with what was rendered there. -/
abbrev Stop := String × Rendered

/-- The stop that a request made. -/
def Exchange.stop? (story : Story) : Exchange → Option Stop
  | (request, .rendered (.ok r)) => (request.destination? story).map (·, r)
  | _ => none

/-- The stops after one more request: a move that succeeds adds one, and a reset drops all. -/
def Exchange.advance (story : Story) (stops : List Stop) (e : Exchange) : List Stop :=
  match e.1 with
  | .reset _ => []
  | _ => stops ++ (e.stop? story).toList

theorem Exchange.advance_of_destination {story : Story} {stops : List Stop} {request : Request}
    {name : String} {r : Rendered} (h : request.destination? story = some name) :
    advance story stops (request, .rendered (.ok r)) = stops ++ [(name, r)] := by
  have stop : stop? story (request, .rendered (.ok r)) = some (name, r) := by
    rw [stop?, h]
    rfl
  unfold advance
  split
  · next drawn asked =>
      obtain rfl : request = .reset drawn := asked
      cases h
  · rw [stop]
    rfl

theorem Exchange.stop?_of_invisible {story : Story} {e : Exchange} (h : e.Invisible) :
    e.stop? story = none := by
  obtain ⟨request, reply⟩ := e
  unfold stop?
  split
  · next r asked =>
      obtain ⟨rfl, rfl⟩ := asked
      have looks : request.looks := h.resolve_left nofun
      cases request with
      | preview | evaluate | snapshot => rfl
      | _ => exact nomatch looks
  · rfl

/-- The stops since the last reset. -/
def stopsOf (story : Story) (log : List Exchange) : List Stop :=
  log.foldl (Exchange.advance story) []

/-- The names of stops. -/
def Stop.names (stops : List Stop) : List String :=
  stops.map Prod.fst

/-- The records of a world agree with the stops that were made. -/
structure World.Tallies (story : Story) (stops : List Stop) (w : World) : Prop where
  visits : w.visits = recorded (Stop.names stops)
  nodes : ∀ name ∈ Stop.names stops, story.hasNode name
  current : w.current = (Stop.names stops).getLast?
  status : w.status = .finished ↔ ∃ stop ∈ stops, stop.2.links = []

namespace World

variable {story : Story} {stops : List Stop} {w w' : World}

theorem start_tallies (store : Store) (seed : Option UInt64) (drawn : Chance) :
    (World.start store seed drawn).Tallies story [] where
  visits := rfl
  nodes := nofun
  current := rfl
  status := ⟨nofun, nofun⟩

/-- Another stop is recorded. -/
theorem Moved.tallies {name : String} {r : Rendered} (h : w.Tallies story stops)
    (moved : Moved story name r w w') : w'.Tallies story (stops ++ [(name, r)]) where
  visits := by
    rw [Stop.names, List.map_append, List.map_singleton, recorded_concat, moved.visits, recordVisit,
      visitCount, h.visits, getD_get?_recorded]
    rfl
  nodes := by
    rw [Stop.names, List.map_append, List.forall_mem_append]
    refine ⟨h.nodes, ?_⟩
    simpa using moved.node
  current := by
    rw [Stop.names, List.map_append, moved.current]
    simp
  status := by
    have ending : r.isEnding = true ↔ r.links = [] := List.isEmpty_iff
    rw [moved.status]
    simp only [List.mem_append, List.mem_singleton, or_and_right, exists_or, exists_eq_left]
    rw [← h.status, ← ending]
    by_cases hr : r.isEnding = true
    · simp [hr]
    · simp [hr]

end World

namespace Session

open World

variable {s : Session} {request : Request}

/-- What a request does. -/
inductive Effect (s : Session) (request : Request) : Prop where
  /-- It moves to a node. -/
  | moved {name : String} {r : Rendered} (destination : request.destination? s.story = some name)
      (reply : (s.perform request).1 = .rendered (.ok r))
      (world : Moved s.story name r s.world (s.perform request).2.world)
  /-- It starts over. -/
  | restarted (drawn : Chance) (asked : request = .reset drawn)
  /-- It takes up a saved playthrough. -/
  | restored (snapshot : Snapshot) (asked : request = .restore snapshot)
  /-- It leaves the session as it is. -/
  | unchanged (invisible : Exchange.Invisible (request, (s.perform request).1))

theorem perform_effect (s : Session) (request : Request) : s.Effect request := by
  have failed {fault : Fault} {x : Except Fault Rendered} (h : x = .error fault) :
      (Reply.rendered x).fault?.isSome := Reply.fault?_rendered.mpr ⟨fault, h⟩
  cases request with
  | start =>
      cases h : (s.render s.story.start).1 with
      | ok r => exact .moved rfl (congrArg Reply.rendered h) (render_moved h)
      | error fault => exact .unchanged (.inl (failed h))
  | render node =>
      cases h : (s.render node).1 with
      | ok r => exact .moved rfl (congrArg Reply.rendered h) (render_moved h)
      | error fault => exact .unchanged (.inl (failed h))
  | traverse link =>
      cases h : (s.traverse link).1 with
      | ok r => exact .moved rfl (congrArg Reply.rendered h) (traverse_moved h)
      | error fault => exact .unchanged (.inl (failed h))
  | preview | evaluate | snapshot => exact .unchanged (.inr rfl)
  | reset drawn => exact .restarted drawn rfl
  | restore snapshot => exact .restored snapshot rfl

/-! ## Runs -/

/-- **One request** keeps the records in agreement with the stops. -/
theorem perform_tallies {stops : List Stop} (h : s.world.Tallies s.story stops)
    (hrestore : ∀ snapshot, request ≠ .restore snapshot) :
    (s.perform request).2.world.Tallies s.story
      (Exchange.advance s.story stops (request, (s.perform request).1)) := by
  cases s.perform_effect request with
  | moved destination reply world =>
      rw [reply, Exchange.advance_of_destination destination]
      exact world.tallies h
  | restarted drawn asked =>
      subst asked
      exact start_tallies _ _ drawn
  | restored snapshot asked => exact absurd asked (hrestore snapshot)
  | unchanged invisible =>
      unfold Exchange.advance
      split
      · next drawn asked =>
          obtain rfl : request = .reset drawn := asked
          exact start_tallies _ _ drawn
      · rw [Exchange.stop?_of_invisible invisible, s.perform_of_invisible invisible]
        simpa using h

/-- **Every run** keeps them so. -/
theorem run_tallies {stops : List Stop} {requests : List Request}
    (h : s.world.Tallies s.story stops)
    (hrestore : ∀ snapshot, Request.restore snapshot ∉ requests) :
    (s.run requests).2.world.Tallies s.story
      ((s.run requests).1.foldl (Exchange.advance s.story) stops) := by
  induction requests generalizing s stops with
  | nil => exact h
  | cons request rest ih =>
      have others (snapshot : Snapshot) := not_or.mp (List.mem_cons.not.mp (hrestore snapshot))
      have step := perform_tallies h fun snapshot => Ne.symm (others snapshot).1
      -- the induction is about the story of the next session, which is the same one
      rw [← s.perform_story request] at step
      have later := ih step fun snapshot => (others snapshot).2
      rw [s.perform_story request] at later
      exact later

theorem perform_finished (h : s.world.status = .finished) (hreset : ∀ drawn, request ≠ .reset drawn)
    (hrestore : ∀ snapshot, request ≠ .restore snapshot) :
    (s.perform request).2.world.status = .finished := by
  cases s.perform_effect request with
  | moved _ _ world => rw [world.status, h, ite_self]
  | restarted drawn asked => exact absurd asked (hreset drawn)
  | restored snapshot asked => exact absurd asked (hrestore snapshot)
  | unchanged invisible => rw [s.perform_of_invisible invisible, h]

/-- A story that has ended stays so until it is started over. -/
theorem run_finished {requests : List Request} (h : s.world.status = .finished)
    (hreset : ∀ drawn, Request.reset drawn ∉ requests)
    (hrestore : ∀ snapshot, Request.restore snapshot ∉ requests) :
    (s.run requests).2.world.status = .finished := by
  induction requests generalizing s with
  | nil => exact h
  | cons request rest ih =>
      have resets (drawn : Chance) := not_or.mp (List.mem_cons.not.mp (hreset drawn))
      have others (snapshot : Snapshot) := not_or.mp (List.mem_cons.not.mp (hrestore snapshot))
      have step := perform_finished h (fun drawn => Ne.symm (resets drawn).1)
        fun snapshot => Ne.symm (others snapshot).1
      exact ih step (fun drawn => (resets drawn).2) fun snapshot => (others snapshot).2

theorem ofStory_tallies {story : Story} {settings : Settings} {drawn : Chance}
    (h : ofStory story settings drawn = .ok s) : s.story = story ∧ s.world.Tallies story [] := by
  unfold ofStory at h
  split at h
  · cases h
    exact ⟨rfl, start_tallies _ _ drawn⟩
  · cases h

/-- **The records of a playthrough are those of the stops made since the last reset.** Visits are
counted in 32 bits, so the counts are exact as long as the number of stops fits. A story that has ended
stays so without a reset, and no link of it can be followed. -/
theorem run_bookkeeping {story : Story} {settings : Settings} {drawn : Chance}
    (hs : ofStory story settings drawn = .ok s) (requests : List Request)
    (hrestore : ∀ snapshot, Request.restore snapshot ∉ requests) :
    (s.run requests).2.world.Tallies story (stopsOf story (s.run requests).1) ∧
      ((stopsOf story (s.run requests).1).length < UInt32.size →
        (s.run requests).2.world.visits.map (fun visit => (visit.1, visit.2.toNat)) =
          tally (Stop.names (stopsOf story (s.run requests).1))) ∧
      ((s.run requests).2.world.status = .finished →
        (∀ later, (∀ drawn, Request.reset drawn ∉ later) →
          (∀ snapshot, Request.restore snapshot ∉ later) →
          ((s.run requests).2.run later).2.world.status = .finished) ∧
        ∀ link, ((s.run requests).2.traverse link).1 =
          .error (.unsourced .storyFinished .traverse)) := by
  obtain ⟨rfl, started⟩ := ofStory_tallies hs
  have tallies := run_tallies started hrestore
  refine ⟨tallies, fun bound => ?_, fun ended => ⟨?_, fun link => ?_⟩⟩
  · rw [tallies.visits]
    exact map_toNat_recorded (by rwa [Stop.names, List.length_map])
  · exact fun later => run_finished ended
  · rw [traverse, if_pos ended]

/-- A story of two nodes, the second of which has no links. -/
def hallStory : Story :=
  { Story.new "hall" with
    nodes := [("hall", .markup "A hall. [[out|exit]]"), ("exit", .fixed "The end." [])] }

/-- A link to its end. -/
def hallLink : Link :=
  ⟨"out", "exit", [], [], "hall"⟩

/-- The hall, a node that is not there, the end of the story and the hall again. -/
def hallRequests : List Request :=
  [.start, .render "cellar", .traverse hallLink, .start, .preview "exit"]

/-- The hall was visited twice and the story has ended. -/
theorem hall_bookkeeping :
    ∃ s, ofStory hallStory {} (.ofSeed 7) = .ok s ∧
      (s.run hallRequests).2.world.visits = [("hall", 2), ("exit", 1)] ∧
      (s.run hallRequests).2.world.current = some "hall" ∧
      ((s.run hallRequests).2.traverse hallLink).1 =
        .error (.unsourced .storyFinished .traverse) := by
  let s : Session := ⟨hallStory, .standard, {}, .start hallStory.state none (.ofSeed 7)⟩
  have opened : ofStory hallStory {} (.ofSeed 7) = .ok s := rfl
  obtain ⟨tallies, -, ended⟩ := run_bookkeeping opened hallRequests (by simp [hallRequests])
  have stops : Stop.names (stopsOf hallStory (s.run hallRequests).1) = ["hall", "exit", "hall"] := by
    decide +kernel
  have finished : (s.run hallRequests).2.world.status = .finished := by decide +kernel
  refine ⟨s, opened, ?_, ?_, (ended finished).2 hallLink⟩
  · rw [tallies.visits, stops]
    decide
  · rw [tallies.current, stops]
    rfl

end Session

end Fiction
