import Fiction.Proofs.Expansion.Discipline
import Fiction.Proofs.Session.Bookkeeping
import Fiction.Proofs.Story.Record

/-!
# Fiction.Proofs.Session.Snapshot

**A saved playthrough can be taken up again.**

* `World.Keyed` says that no key of a variable and no node among the visits is repeated. Playing keeps
  it: `perform_keyed` is the step and `run_keyed` is the result for whole runs.
* `Snapshot.ofJson?_toJson` reads each field of a snapshot from its data, and `Snapshot.parse?_text` a
  snapshot from its text.
* `restored_from_text` puts the two together.
-/

namespace Fiction

open Value

/-! ## Requests -/

/-- No key is repeated in what a link hands over or writes. -/
structure Link.Keyed (l : Link) : Prop where
  context : ∀ v ∈ l.context, v.Keyed
  commands : ∀ c ∈ l.commands, ∀ v ∈ c.value?, v.Keyed

/-- No key of a variable and no node is repeated. -/
structure Snapshot.Keyed (s : Snapshot) : Prop where
  store : s.store.Keyed
  visits : Mapping.Distinct s.visits

/-- No key is repeated in what a request gives to a session. -/
def Request.Keyed : Request → Prop
  | .traverse link => link.Keyed
  | .restore saved => saved.Keyed
  | .start | .render _ | .preview _ | .evaluate _ | .reset _ | .snapshot => True

/-! ## Playing -/

/-- No key of a variable and no node is repeated. -/
structure World.Keyed (w : World) : Prop where
  store : w.store.Keyed
  visits : Mapping.Distinct w.visits

namespace World.Keyed

variable {world : World}

theorem start {state : Store} (h : state.Keyed) (seed : Option UInt64) (drawn : Chance) :
    (World.start state seed drawn).Keyed :=
  ⟨h, List.nodup_nil⟩

theorem recordVisit (h : world.Keyed) (node : String) : (world.recordVisit node).Keyed :=
  ⟨h.store, Mapping.distinct_insert h.visits⟩

theorem visited (h : world.Keyed) : (mapping world.visited).Keyed := by
  refine keyed_mapping_iff.mpr ⟨?_, fun entry hentry => ?_⟩
  · unfold Mapping.Distinct World.visited
    rw [List.map_map]
    exact h.visits
  · obtain ⟨visit, _, rfl⟩ := List.mem_map.mp hentry
    exact keyed_of_isAtom trivial

end World.Keyed

namespace Session

open Expansion

variable {s : Session} {world : World}

/-- Expansion that has to make no repeated keys, from any text. -/
def keyed (s : Session) : Discipline where
  setting := ⟨s.story, s.library, s.settings.maxDepth⟩
  good := Value.Keyed
  closed := closed_keyed
  known _ := True
  nodes _ := trivial

/-- Expansion keeps repeated keys out of the variables and does not touch the visits. -/
theorem expand_keyed {α : Type} {x : Expansion α} {phase : Phase} {source : Source}
    {surroundings : Surroundings} {result : Except Fault α} {p : Progress}
    (h : s.expand world phase source surroundings x = (result, p)) (hx : Yields s.keyed source x)
    (hrestores : ∀ setting, Keeps Progress.Restored setting x) (hworld : world.Keyed)
    (hcontext : ∀ v ∈ surroundings.context, v.Keyed)
    (hvisited : (mapping surroundings.visited).Keyed) : p.world.Keyed := by
  have after := (expand_yields rfl hx h hworld.store hcontext hvisited).1
  refine ⟨after.store, ?_⟩
  rw [(expand_unmoved hrestores h).visits]
  exact hworld.visits

theorem finish_keyed (h : world.Keyed) (r : Rendered) : (finish world r).Keyed := by
  rw [finish_eq]
  exact ⟨h.store, h.visits⟩

theorem renderIn_keyed (h : world.Keyed) (name : String) {context : List Value}
    (hcontext : ∀ v ∈ context, v.Keyed) : (s.renderIn world name context).2.Keyed := by
  have arrived : World.Keyed { world.recordVisit name with current := some name } :=
    ⟨(h.recordVisit name).store, (h.recordVisit name).visits⟩
  unfold renderIn
  split
  · exact h
  · next node _ =>
      cases node with
      | fixed content successors => exact finish_keyed arrived _
      | markup content =>
          have expanded : Yields s.keyed ⟨name, content⟩ (markupTop (.ofString content)) :=
            markupTop_yields ⟨trivial, .refl⟩
          dsimp only
          split
          · next run =>
              exact finish_keyed (expand_keyed run expanded (markupTop_restores · _) arrived hcontext
                arrived.visited) _
          · next run =>
              exact expand_keyed run expanded (markupTop_restores · _) arrived hcontext arrived.visited

theorem runCommands_keyed (h : world.Keyed) {link : Link} (hlink : link.Keyed) :
    (s.runCommands world link).2.Keyed := by
  have commands : Yields s.keyed ⟨link.origin, ""⟩
      (link.commands.forM fun c => mapFault (·.inNode link.origin) (runCommand c)) :=
    .forM fun c hc =>
      (runCommand_yields (fun _ => trivial) (hlink.commands c hc)).mapFault fun _ h => h
  have restores (setting : Setting) : Keeps Progress.Restored setting
      (link.commands.forM fun c => mapFault (·.inNode link.origin) (runCommand c)) :=
    Keeps.forM fun c _ => (runCommand_restores setting c).mapFault
  exact expand_keyed rfl commands restores h (fun _ hv => absurd hv List.not_mem_nil) h.visited

theorem traverseIn_keyed (h : world.Keyed) {link : Link} (hlink : link.Keyed) :
    (s.traverseIn world link).2.Keyed := by
  have between := runCommands_keyed (s := s) h hlink
  unfold traverseIn
  split
  · exact h
  · split
    · next run =>
        rw [run] at between
        exact renderIn_keyed between link.target hlink.context
    · next run =>
        rw [run] at between
        exact between

theorem transaction_keyed {α : Type} {work : World → Except Fault α × World} (h : s.world.Keyed)
    (hwork : ∀ world, world.Keyed → (work world).2.Keyed) : (s.transaction work).2.world.Keyed := by
  unfold transaction
  split
  · next run =>
      have after := hwork _ h
      rw [run] at after
      exact after
  · exact h

theorem start_of_ofStory {story : Story} {settings : Settings} {drawn : Chance}
    {opened : Session} (h : ofStory story settings drawn = .ok opened) :
    opened.story = story ∧ opened.world = .start story.state settings.seed drawn := by
  unfold ofStory at h
  split at h
  · cases h
    exact ⟨rfl, rfl⟩
  · cases h

/-- **No request makes a repeated key**, whether it succeeds or fails. -/
theorem perform_keyed {request : Request} (hstate : s.story.state.Keyed) (h : s.world.Keyed)
    (hrequest : request.Keyed) : (s.perform request).2.world.Keyed := by
  have none (v : Value) (hv : v ∈ []) : v.Keyed := absurd hv List.not_mem_nil
  cases request with
  | start => exact transaction_keyed h fun _ h => renderIn_keyed h s.story.start none
  | render node => exact transaction_keyed h fun _ h => renderIn_keyed h node none
  | traverse link =>
      change (s.traverse link).2.world.Keyed
      unfold traverse
      split
      · exact h
      · exact transaction_keyed h fun _ h => traverseIn_keyed h hrequest
  | preview | evaluate | snapshot => exact h
  | reset drawn => exact .start hstate _ drawn
  | restore saved => exact ⟨hrequest.store, hrequest.visits⟩

theorem run_keyed {requests : List Request} (hstate : s.story.state.Keyed) (h : s.world.Keyed)
    (hrequests : ∀ request ∈ requests, request.Keyed) : (s.run requests).2.world.Keyed := by
  induction requests generalizing s with
  | nil => exact h
  | cons request rest ih =>
      obtain ⟨first, others⟩ := List.forall_mem_cons.mp hrequests
      rw [run_cons]
      refine ih ?_ (perform_keyed hstate h first) others
      rw [perform_story]
      exact hstate

end Session

/-! ## Saving and reading -/

namespace Snapshot

variable {s : Snapshot}

theorem store?_toJson {store : Store} (h : store.Keyed) (hreal : store.toValue.RealFree) :
    store? store.toValue.toJson = some store := by
  have tree : store.toValue.toJson = .object (toJsonMembers store.root) := by
    rw [Store.toValue, Value.toJson]
  rw [tree, store?, ← tree, ofJson_toJson h hreal]
  rfl

/-- A count of 32 bits fits into an integer. -/
theorem count?_int (n : UInt32) : count? (.int (Int64.ofNat n.toNat)) = some n := by
  have bound : n.toNat < UInt32.size := n.toNat_lt_size
  have exact : (Int64.ofNat n.toNat).toInt = n.toNat :=
    Int64.toInt_ofNat_of_lt (by simp [UInt32.size] at bound; omega)
  rw [count?, exact, if_pos ⟨Int.natCast_nonneg _, by omega⟩, Int.toNat_natCast, UInt32.ofNat_toNat]

theorem status?_name (status : Status) : status? (.text status.name) = some status := by
  cases status with
  | unfolding => rfl
  | finished => rfl

theorem fields?_toJson (s : Snapshot) :
    Record.fields? ["store", "visits", "current", "status"] s.toJson =
      some [some s.store.toValue.toJson,
        some (.object (s.visits.map fun visit => (visit.1, .int (Int64.ofNat visit.2.toNat)))),
        some (s.current.elim .null .text), some (.text s.status.name)] := by
  unfold toJson
  cases s.current with
  | none => simp [Record.fields?, Mapping.get?]
  | some node => simp [Record.fields?, Mapping.get?]

/-- **A snapshot is read from its data.** -/
theorem ofJson?_toJson (h : s.Keyed) (hreal : s.store.toValue.RealFree) : ofJson? s.toJson = some s := by
  have visits : Record.mapping? count?
      (.object (s.visits.map fun visit => (visit.1, .int (Int64.ofNat visit.2.toNat)))) = some s.visits := by
    have counts (visit : String × UInt32) (_ : visit ∈ s.visits) :
        count? (.int (Int64.ofNat visit.2.toNat)) = some visit.2 :=
      count?_int visit.2
    rw [Record.mapping?_object h.visits counts]
    exact congrArg some (List.map_id _)
  have current : Record.optional Record.text? (some (s.current.elim .null .text)) = some s.current := by
    cases s.current with
    | none => rfl
    | some node => rfl
  rw [ofJson?, fields?_toJson]
  simp [store?_toJson h.store hreal, Record.withDefault, visits, current, status?_name]

theorem isRealFree_toJson (hreal : s.store.toValue.RealFree) : s.toJson.isRealFree = true := by
  have counts : (Json.object (s.visits.map fun visit =>
      (visit.1, .int (Int64.ofNat visit.2.toNat)))).isRealFree = true := by
    rw [Json.isRealFree_object_iff, List.forall_mem_map]
    exact fun visit _ => rfl
  unfold toJson
  rw [Json.isRealFree_object_iff]
  simp only [List.forall_mem_cons]
  refine ⟨Value.isRealFree_toJson hreal, counts, ?_, rfl, fun _ h => absurd h List.not_mem_nil⟩
  cases s.current with
  | none => rfl
  | some node => rfl

/-- **A snapshot is read from its text.** -/
theorem parse?_text (h : s.Keyed) (hreal : s.store.toValue.RealFree)
    (hdeep : s.toJson.depth ≤ Json.nestingLimit) : parse? s.text = some s := by
  unfold parse? text
  rw [Json.parse?_compact (isRealFree_toJson hreal) hdeep, Option.bind_some, ofJson?_toJson h hreal]

end Snapshot

namespace Session

/-- **A saved playthrough can be taken up again.** Whatever a session went through, the text of its
snapshot is read if its variables have no reals and the text is not nested too deep. Any session that
takes it up has the variables, the visits, the position and the status of the one that was saved, with
all orders; chance goes on as it was. Mappings have distinct keys wherever they come from. -/
theorem restored_from_text {story : Story} {settings : Settings} {drawn : Chance}
    {opened played : Session} {requests : List Request}
    (hopened : ofStory story settings drawn = .ok opened) (hstate : story.state.Keyed)
    (hrequests : ∀ request ∈ requests, request.Keyed) (hplayed : (opened.run requests).2 = played)
    (hreal : played.world.store.toValue.RealFree)
    (hdeep : played.snapshot.toJson.depth ≤ Json.nestingLimit) :
    ∃ saved, Snapshot.parse? played.snapshot.text = some saved ∧
      ∀ other : Session, other.restore saved =
        { other with world := { played.world with chance := other.world.chance } } := by
  obtain ⟨hstory, hworld⟩ := start_of_ofStory hopened
  have keyed : played.world.Keyed := by
    rw [← hplayed]
    refine run_keyed ?_ ?_ hrequests
    · rw [hstory]
      exact hstate
    · rw [hworld]
      exact .start hstate _ drawn
  refine ⟨played.snapshot, ?_, fun other => rfl⟩
  exact Snapshot.parse?_text ⟨keyed.store, keyed.visits⟩ hreal hdeep

/-- A story with variables of many kinds, odd text and empty collections among them. -/
def cellar : Story :=
  { Story.new "cellar" with
    state := ⟨[("motto", .text "\"\\\n\u00e9"),
      ("bag", .mapping [("rope", .list []), ("map", .mapping []), ("key", .null)])]⟩
    nodes := [("cellar", .markup "(set~ bag.coin ~ 3)[[up|attic|(add~ bag.coin ~ -4)]]"),
      ("attic", .markup "(set~ seen ~ [_once, _context])")] }

/-- The way up, with a value that is handed over and another command than the text has. -/
def stairs : Link :=
  ⟨"up", "attic", [.mapping [("b", .bool true), ("a", .list [.null])]],
    [.call .add "(add~ bag.coin ~ -4)", .literal .set ⟨"door", []⟩ (some (.text "open"))], "cellar"⟩

/-- Going up to the end of the story. -/
def climb : List Request :=
  [.start, .traverse stairs]

/-- The playthrough at the end of the story is taken up again. -/
theorem climb_taken_up_again :
    ∃ opened, ofStory cellar {} (.ofSeed 7) = .ok opened ∧ cellar.state.Keyed ∧
      (∀ request ∈ climb, request.Keyed) ∧
      (opened.run climb).2.world.visits = [("cellar", 1), ("attic", 1)] ∧
      (opened.run climb).2.world.store.toValue.RealFree ∧
      ∃ saved, Snapshot.parse? (opened.run climb).2.snapshot.text = some saved ∧
        ∀ other : Session, other.restore saved =
          { other with world := { (opened.run climb).2.world with chance := other.world.chance } } := by
  let opened : Session := ⟨cellar, .standard, {}, .start cellar.state none (.ofSeed 7)⟩
  have hopened : ofStory cellar {} (.ofSeed 7) = .ok opened := rfl
  have hstate : cellar.state.Keyed := by decide +kernel
  have hclimb : ∀ request ∈ climb, request.Keyed := by
    unfold climb
    simp only [List.forall_mem_cons]
    exact ⟨trivial, ⟨by decide +kernel, by decide +kernel⟩, fun _ h => absurd h List.not_mem_nil⟩
  have visits : (opened.run climb).2.world.visits = [("cellar", 1), ("attic", 1)] := by
    decide +kernel
  have real : (opened.run climb).2.world.store.toValue.RealFree := by decide +kernel
  have deep : (opened.run climb).2.snapshot.toJson.depth ≤ Json.nestingLimit := by decide +kernel
  exact ⟨opened, hopened, hstate, hclimb, visits, real,
    restored_from_text hopened hstate hclimb rfl real deep⟩

end Session

end Fiction
