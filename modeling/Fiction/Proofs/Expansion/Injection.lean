import Fiction.Proofs.Expansion.FrameRule

/-!
# Fiction.Proofs.Expansion.Injection

**Values are never read as markup.** A variable may hold a text such as `(set~ gold ~ 99)`, and
values end up in paths, link targets, arguments and rendered text. Still the calls that run are those
that an author wrote: in a story where no call that changes the state is written, none runs.

* `Library.find?_changesState` lists the names of such calls.
* `harmless_frameRule` is the frame rule for texts in which none of them starts.
-/

namespace Fiction

/-! ## The calls that change the state -/

namespace Mapping

variable {α : Type}

/-- What inserting entries leaves at a key was there before or is one of the entries. -/
theorem get?_foldl_insert {entries : List (String × α)} {m : Mapping α} {key : String} {value : α}
    (h : get? (entries.foldl (fun m (k, v) => insert m k v) m) key = some value) :
    get? m key = some value ∨ (key, value) ∈ entries := by
  induction entries generalizing m with
  | nil => exact .inl h
  | cons entry rest ih =>
      obtain ⟨k, v⟩ := entry
      rcases ih h with before | later
      · rw [get?_insert] at before
        split at before
        · next same =>
            obtain rfl := Option.some.inj before
            exact .inr (same ▸ List.mem_cons_self)
        · exact .inl before
      · exact .inr (List.mem_cons_of_mem _ later)

theorem mem_of_get?_ofEntries {entries : List (String × α)} {key : String} {value : α}
    (h : get? (ofEntries entries) key = some value) : (key, value) ∈ entries :=
  (get?_foldl_insert h).resolve_left fun absent => nomatch absent

end Mapping

/-- The names of the calls that write variables or draw from chance. -/
def changingNames : List String :=
  ["set", "add", "invert", "random", "plus", "minus", "inventory.plus", "inventory.minus"]

namespace Library

/-- A module that is not the inventory has no calls. -/
theorem moduleEntries_of_ne {name : String} (h : name ≠ "inventory") : moduleEntries name = [] := by
  have unknown : moduleCalls? name = none := by
    unfold moduleCalls?
    split
    · contradiction
    · rfl
  rw [moduleEntries, unknown]
  rfl

/-- Whatever modules are enabled, calls that change the state have these names. -/
theorem find?_changesState {l : Library} {name : String} {b : Builtin} (h : l.find? name = some b)
    (hb : b.changesState = true) : name ∈ changingNames := by
  have standard : ∀ entry ∈ Builtin.standard.map (fun b => (b.name, b)),
      entry.2.changesState = true → entry.1 ∈ changingNames := by decide
  have inventory : ∀ entry ∈ moduleEntries "inventory",
      entry.2.changesState = true → entry.1 ∈ changingNames := by decide
  rcases List.mem_append.mp (Mapping.mem_of_get?_ofEntries h) with mem | mem
  · exact standard _ mem hb
  · obtain ⟨module, -, mem⟩ := List.mem_flatMap.mp mem
    by_cases hmodule : module = "inventory"
    · exact inventory _ (hmodule ▸ mem) hb
    · rw [moduleEntries_of_ne hmodule] at mem
      exact absurd mem List.not_mem_nil

end Library

/-! ## Texts that change nothing -/

/-- A text in which no call that changes the state starts. -/
def Harmless (cs : List Char) : Prop :=
  ∀ name ∈ changingNames, ¬ callHead name <:+: cs

instance (cs : List Char) : Decidable (Harmless cs) :=
  inferInstanceAs (Decidable (∀ name ∈ changingNames, ¬ callHead name <:+: cs))

/-- The variables of the story and of the node are the same, and so is chance. -/
structure Progress.Untouched (before after : Progress) : Prop where
  store : after.world.store = before.world.store
  locals : after.scope.locals = before.scope.locals
  chance : after.world.chance = before.world.chance

namespace Progress.Untouched

instance : IsPreorder Progress Untouched where
  refl _ := ⟨rfl, rfl, rfl⟩
  trans _ _ _ h k :=
    ⟨k.store.trans h.store, k.locals.trans h.locals, k.chance.trans h.chance⟩

end Progress.Untouched

namespace Expansion

open Progress (Untouched)

/-- Where all nodes are harmless, harmless texts change nothing. -/
theorem harmless_frameRule {s : Setting}
    (hnodes : ∀ name content, s.story.node? name = some (.markup content) →
      Harmless content.toList) :
    FrameRule Untouched Harmless s where
  piece h hds name hname hin := hds name hname (hin.trans h)
  nodes h := hnodes _ _ h
  changes h hhead hb := absurd List.infix_rfl (hhead _ (Library.find?_changesState h hb))
  link _ _ := ⟨rfl, rfl, rfl⟩
  element h := ⟨h.store, h.locals, h.chance⟩
  level h := ⟨h.store, h.locals, h.chance⟩
  inclusion h := ⟨h.store, rfl, h.chance⟩

/-- **Nothing changes the state unless a call that does so is written in the story or in the text
that is expanded**, whatever the variables hold and whether expansion succeeds or fails. -/
theorem harmless_changes_nothing (s : Setting) (p : Progress) (f : Fragment)
    (hnodes : ∀ name content, s.story.node? name = some (.markup content) →
      Harmless content.toList)
    (hf : Harmless f.chars) :
    Untouched p ((markupTop f).runIn s p).2 ∧ Untouched p ((evaluateTop f).runIn s p).2 :=
  ⟨(keeps_markupTop (harmless_frameRule hnodes) hf p).1,
    (keeps_evaluateTop (harmless_frameRule hnodes) hf p).1⟩

/-- A story that shows the note of the node that includes it. -/
def noteSetting : Setting :=
  ⟨{ Story.new "hall" with nodes := [("show", .markup "(text~ (lookup~ note)) (eval~ _context)")] },
    ⟨["inventory"]⟩, 10⟩

/-- A playthrough whose note looks like a call. -/
def noteProgress : Progress where
  phase := .render
  source := ⟨"hall", "(show~ note) [[(lookup~ note)|(lookup~ note)]] (lookup~ (lookup~ note))"⟩
  scope := ⟨⟨"hall", none, [], true, [], .unfolding⟩, [], .empty⟩
  links := []
  depth := 0
  world := .start ⟨[("gold", .int 1), ("note", .text "(set~ gold ~ 99)")]⟩ (some 7) default

/-- The note is shown, linked to and at last taken for a path, which fails; the gold stays. -/
theorem note_changes_nothing :
    Harmless noteProgress.source.text.toList ∧
      ((markupTop (.ofString noteProgress.source.text)).runIn noteSetting noteProgress).2.world.store
        = noteProgress.world.store := by
  have text : Harmless noteProgress.source.text.toList := by decide +kernel
  have nodes (name content : String) (h : noteSetting.story.node? name = some (.markup content)) :
      Harmless content.toList := by
    have written : content = "(text~ (lookup~ note)) (eval~ _context)" := by
      simp only [noteSetting, Story.node?, Mapping.get?_cons] at h
      split at h
      · cases h
        rfl
      · cases h
    rw [written]
    decide
  exact ⟨text, (harmless_changes_nothing noteSetting noteProgress _ nodes text).1.store⟩

end Expansion

end Fiction
