import Fiction.Proofs.Expansion.Commands
import Fiction.Proofs.Expansion.Variables
import Fiction.Proofs.Store.Bag

/-!
# Fiction.Proofs.Expansion.Inventory

**The calls of the inventory keep it a bag.** `plus` and `minus` change one count, or fail and change
nothing; `count` reads what they left.

* `Names` and `Amounts` say what the arguments of such a call stand for, and `Change` is a call with that.
* `runIn_callTop_change` is one step: what a change does to a bag, and when it is refused.
* `after` makes one call after the other, and `exists_after` says that changes leave a bag.
* `inventory_stays_bag` is the main statement. What it says of a point is `KeepsBag`.
-/

namespace Fiction

/-- Other variables of the story. -/
def Progress.withStore (p : Progress) (store : Store) : Progress :=
  p.withStores p.scope.locals store

namespace Expansion

variable {call : Caller} {s : Setting} {p : Progress}

/-! ## Running a call of the library -/

/-- A call of the library, where it can still be made. -/
theorem runIn_callTop {c : Call} {b : Builtin} (found : s.library.find? c.name = some b)
    (room : p.depth < s.limit) :
    ∃ call : Caller, (callTop c).runIn s p =
      (((builtin call c b).runIn s p.deeper).1.mapError (·.inCall c.name),
        ((builtin call c b).runIn s p.deeper).2.shallower) := by
  obtain ⟨k, hk⟩ : ∃ k, s.limit - p.depth = k + 1 := ⟨s.limit - p.depth - 1, by omega⟩
  refine ⟨callWith k, ?_⟩
  have dispatched : (dispatch (callWith k) c).runIn s p.deeper =
      (builtin (callWith k) c b).runIn s p.deeper := by
    unfold dispatch
    rw [runIn_bind, runIn_read]
    dsimp only
    rw [found]
  unfold callTop
  rw [runIn_room, hk, callWith, runIn_mapFault, runIn_borrowing, dispatched]

theorem runIn_callTop_of_ok {c : Call} {b : Builtin} (found : s.library.find? c.name = some b)
    (room : p.depth < s.limit) {v : Value} {store : Store}
    (inner : ∀ call : Caller, (builtin call c b).runIn s p.deeper =
      (.ok v, p.deeper.withStore store)) :
    (callTop c).runIn s p = (.ok v, p.withStore store) := by
  obtain ⟨call, run⟩ := runIn_callTop found room
  rw [run, inner]
  rfl

/-- A fault leaves a call with its cause. -/
theorem runIn_callTop_of_error {c : Call} {b : Builtin} (found : s.library.find? c.name = some b)
    (room : p.depth < s.limit) {P : Cause → Prop}
    (inner : ∀ call : Caller, ∃ fault, (builtin call c b).runIn s p.deeper =
      (.error fault, p.deeper) ∧ P fault.cause) :
    ∃ fault, (callTop c).runIn s p = (.error fault, p) ∧ P fault.cause := by
  obtain ⟨call, run⟩ := runIn_callTop found room
  obtain ⟨fault, failed, cause⟩ := inner call
  rw [run, failed]
  exact ⟨_, rfl, cause⟩

/-! ## Arguments -/

/-- Literal text, without calls and links, that names an item. -/
structure Names (f : Fragment) (item : String) : Prop where
  visible : f.isBlank = false
  plain : Markup.AllPlain false f.trim.chars
  text : Text.trimString (String.ofList (Markup.unescape f.trim.chars)) = item

/-- An argument that gives an amount: an expression that has this value everywhere. Where nothing is
written, it is one. -/
def Amounts (n : Int64) : Option Fragment → Prop
  | none => n = 1
  | some f =>
      if f.isBlank then n = 1 else ∀ call s p, (evaluate call f).runIn s p = (.ok (.int n), p)

theorem runIn_selector {f : Fragment} {item : String} (h : Names f item) :
    (selector call (some f)).runIn s p = (.ok (some item), p) := by
  unfold selector
  dsimp only
  rw [h.visible, if_neg Bool.false_ne_true, runIn_bind, runIn_markup_of_allPlain h.plain]
  dsimp only
  rw [h.text, runIn_pure]

theorem runIn_itemArgument {c : Call} {f : Fragment} {rest : List Fragment} {item : String}
    (hargs : c.args = f :: rest) (hrest : rest.length ≤ 1) (h : Names f item) :
    (itemArgument call c).runIn s p = (.ok item, p) := by
  have number : ¬ (c.args.isEmpty || decide (2 < c.args.length)) = true := by
    simp [hargs]
    omega
  have first : c.args[0]? = some f := by rw [hargs]; rfl
  unfold itemArgument
  rw [if_neg number, first, runIn_bind, runIn_selector h]
  rfl

theorem runIn_amount {c : Call} {n : Int64} (h : Amounts n c.args[1]?) :
    (amount call c).runIn s p = (.ok n, p) := by
  unfold amount
  cases second : c.args[1]? with
  | none =>
      rw [second] at h
      rw [h]
      rfl
  | some f =>
      rw [second] at h
      unfold Amounts at h
      dsimp only at h ⊢
      split at h
      · next blank => rw [if_pos blank, h, runIn_pure]
      · next visible =>
          rw [if_neg visible, runIn_bind, h]
          rfl

/-- A literal is an amount, of either sign. -/
theorem amounts_literal {n : Int64} (hn : n.toInt ≠ Integer.least) {f : Fragment} {blanks : List Char}
    (hblanks : ∀ c ∈ blanks, Text.isBlank c = true)
    (hf : f.chars = blanks ++ (Value.int n).literal.toList) : Amounts n (some f) := by
  have realFree : (Value.int n).RealFree := by simp [Value.RealFree, Value.parts, Value.kind]
  have legible : (Value.int n).tokens?.isSome = true := by
    rw [Value.tokens?]
    split
    · rw [Option.isSome_map]
      exact (Integer.isSome_neg?_iff n).mpr hn
    · rfl
  have visible : f.isBlank = false := by
    have literal := Value.isEmptyText_literal realFree
    unfold Text.isEmptyText at literal
    rw [Fragment.isBlank, hf, Text.isEmptyText, List.all_append, literal, Bool.and_false]
  unfold Amounts
  dsimp only
  rw [visible, if_neg Bool.false_ne_true]
  intro call s p
  exact runIn_evaluate_literal realFree hblanks hf legible

/-! ## The store -/

variable {item : String}

theorem isReadOnly_itemPath (item : String) : Scope.isReadOnly (itemPath item) = false := by
  have writable : Scope.isReadOnly (.single "inv") = false := by decide
  exact writable

theorem isLocal_itemPath (item : String) : (itemPath item).isLocal = false := by
  have owned : (Path.single "inv").isLocal = false := by decide
  exact owned

theorem runIn_resolve_item (item : String) :
    (resolve (itemPath item)).runIn s p = (.ok (p.world.store.get (itemPath item)), p) := by
  rw [runIn_resolve, Scope.resolve_of_writable (isReadOnly_itemPath item), isLocal_itemPath,
    if_neg Bool.false_ne_true]

/-- A change of a count belongs to the variables of the story. -/
theorem runIn_change_item {α : Type} (item : String) (f : Store → Outcome α × Store) :
    (change (itemPath item) f).runIn s p =
      (.ok (f p.world.store).1, p.withStore (f p.world.store).2) := by
  rw [runIn_change, Scope.write_of_not_isLocal (isReadOnly_itemPath item) (isLocal_itemPath item)]
  rfl

/-- A count that fits is stored. -/
theorem runIn_storeCount (bag : p.world.store.IsBag) (item : String) (left : Int64) :
    (storeCount (itemPath item) left).runIn s p =
      (.ok (.ok ()), p.withStore (p.world.store.recount item left)) := by
  unfold storeCount Store.recount
  split
  · rw [write, runIn_change_item, bag.set]
  · rw [remove, runIn_bind, runIn_change_item, bag.remove]
    cases there : Mapping.contains p.world.store.root "inv" with
    | true => rfl
    | false => rfl

/-- Storing a count recounts the item, or fails because the count does not fit. -/
theorem runIn_storeChange (bag : p.world.store.IsBag) (c : Call) (item operation : String)
    (count : Int) :
    (¬ Integer.Fits count → ∃ fault,
      (storeChange c (itemPath item) operation (Integer.fit? count)).runIn s p = (.error fault, p) ∧
        fault.cause = .invalidValue (.overflow operation)) ∧
    (Integer.Fits count → ∃ left : Int64, left.toInt = count ∧
      (storeChange c (itemPath item) operation (Integer.fit? count)).runIn s p =
        (.ok .null, p.withStore (p.world.store.recount item left))) := by
  constructor
  · intro high
    rw [Integer.fit?_of_not_fits high]
    exact ⟨_, rfl, rfl⟩
  · intro fits
    obtain ⟨left, hleft, found⟩ := Integer.exists_of_fits fits
    refine ⟨left, hleft, ?_⟩
    rw [found]
    unfold storeChange
    dsimp only
    rw [runIn_bind, runIn_storeCount bag]
    rfl

/-- The table of items, which is empty before there is one. -/
theorem runIn_table (bag : p.world.store.IsBag) :
    (table "inv").runIn s p = (.ok (.ok p.world.store.inventory), p) := by
  have read : p.scope.resolve p.world.store (.single "inv") = p.world.store.get (.single "inv") := by
    rw [Scope.resolve_of_writable (by decide)]
    exact if_neg (by decide)
  unfold table
  rw [runIn_bind, runIn_resolve, read, Store.get]
  dsimp only [Path.single]
  rcases bag.found_cases with ⟨missing, -, none⟩ | ⟨found, -⟩
  · rw [missing, none]
    rfl
  · rw [found]
    rfl

/-! ## One change -/

/-- A change of the inventory: a call of `plus` or `minus` with the item and the amount that its arguments
stand for. -/
structure Change where
  /-- The call. -/
  call : Call
  /-- Whether items are taken away. -/
  takes : Bool
  /-- The item. -/
  item : String
  /-- How many are added or taken away. -/
  amount : Int64

namespace Change

/-- The call is one of the library, and its arguments are an item that is written out and an amount. -/
structure Written (library : Library) (x : Change) : Prop where
  found : library.find? x.call.name = some (if x.takes then .minus else .plus)
  item : ∃ f rest, x.call.args = f :: rest ∧ rest.length ≤ 1 ∧ Names f x.item
  amount : Amounts x.amount x.call.args[1]?

/-- What the count should be. -/
def due (x : Change) (store : Store) : Int :=
  if x.takes then store.held x.item - x.amount.toInt else store.held x.item + x.amount.toInt

/-- The count would not fit, or something is taken that is not there. -/
def Refused (x : Change) (store : Store) : Prop :=
  ¬ Integer.Fits (x.due store) ∨ (x.takes = true ∧ store.held x.item = 0)

/-- Why a change is refused. -/
def refusal (x : Change) (store : Store) : Cause :=
  if x.takes then
    if store.held x.item = 0 then .undefined (itemPath x.item).text
    else .invalidValue (.overflow "minus")
  else .invalidValue (.overflow "plus")

/-- How a change should go: it fails and changes nothing, or it sets the count of the item and leaves a
bag behind. -/
structure Goes (x : Change) (p : Progress) (run : Except Fault Value × Progress) : Prop where
  fails_iff : (∃ fault, run.1 = .error fault) ↔ x.Refused p.world.store
  failed : ∀ fault, run.1 = .error fault →
    fault.cause = x.refusal p.world.store ∧ run.2 = p
  succeeded : ∀ v, run.1 = .ok v → v = .null ∧ ∃ store, run.2 = p.withStore store ∧ store.IsBag ∧
    p.world.store.Recounted store x.item (max 0 (x.due p.world.store))

end Change

section

variable {c : Call} {n : Int64} (hitem : (itemArgument call c).runIn s p = (.ok item, p))
  (hamount : (amount call c).runIn s p = (.ok n, p)) (bag : p.world.store.IsBag)

include hitem hamount

/-- Both calls start with the item and the amount. -/
theorem runIn_item_amount (k : String → Int64 → Expansion Value) :
    (do
      let item ← itemArgument call c
      let n ← amount call c
      k item n).runIn s p = (k item n).runIn s p := by
  rw [runIn_bind, hitem]
  dsimp only
  rw [runIn_bind, hamount]

include bag

theorem runIn_plusCall : (plusCall call c).runIn s p =
    (storeChange c (itemPath item) "plus"
      (Integer.fit? (p.world.store.held item + n.toInt))).runIn s p := by
  unfold plusCall
  rw [runIn_item_amount hitem hamount, runIn_bind, runIn_resolve_item, bag.get]
  rcases bag.get?_cases item with ⟨missing, zero⟩ | ⟨held, found, count, -⟩
  · rw [missing, zero]
    rfl
  · rw [found, count]
    rfl

theorem runIn_minusCall_of_held (some : p.world.store.held item ≠ 0) :
    (minusCall call c).runIn s p =
      (storeChange c (itemPath item) "minus"
        (Integer.fit? (p.world.store.held item - n.toInt))).runIn s p := by
  unfold minusCall
  rw [runIn_item_amount hitem hamount, runIn_bind, runIn_resolve_item, bag.get]
  rcases bag.get?_cases item with ⟨-, zero⟩ | ⟨held, found, count, -⟩
  · exact absurd zero some
  · rw [found, count]
    rfl

/-- What is not there cannot be taken. -/
theorem runIn_minusCall_of_not_held (none : p.world.store.held item = 0) :
    ∃ fault, (minusCall call c).runIn s p = (.error fault, p) ∧
      fault.cause = .undefined (itemPath item).text := by
  unfold minusCall
  rw [runIn_item_amount hitem hamount, runIn_bind, runIn_resolve_item, bag.get]
  rcases bag.get?_cases item with ⟨missing, -⟩ | ⟨held, -, count, positive⟩
  · rw [missing]
    exact ⟨_, rfl, rfl⟩
  · omega

end

/-- What a change does inside of its call. -/
theorem runIn_builtin_change (call : Caller) {x : Change} (bag : p.world.store.IsBag)
    (h : x.Written s.library) :
    (x.Refused p.world.store → ∃ fault,
      (builtin call x.call (if x.takes then .minus else .plus)).runIn s p = (.error fault, p) ∧
        fault.cause = x.refusal p.world.store) ∧
    (¬ x.Refused p.world.store → ∃ left : Int64, left.toInt = x.due p.world.store ∧
      (builtin call x.call (if x.takes then .minus else .plus)).runIn s p =
        (.ok .null, p.withStore (p.world.store.recount x.item left))) := by
  obtain ⟨f, rest, hargs, hrest, names⟩ := h.item
  have hitem : (itemArgument call x.call).runIn s p = (.ok x.item, p) :=
    runIn_itemArgument hargs hrest names
  have hamount : (amount call x.call).runIn s p = (.ok x.amount, p) := runIn_amount h.amount
  unfold Change.Refused Change.due Change.refusal
  cases x.takes with
  | false =>
      have stored := runIn_storeChange (s := s) bag x.call x.item "plus"
        (p.world.store.held x.item + x.amount.toInt)
      rw [← runIn_plusCall hitem hamount bag] at stored
      simp only [Bool.false_eq_true, if_false, false_and, or_false, not_not]
      exact stored
  | true =>
      by_cases none : p.world.store.held x.item = 0
      · rw [if_pos none]
        exact ⟨fun _ => runIn_minusCall_of_not_held hitem hamount bag none,
          fun allowed => absurd (.inr ⟨rfl, none⟩) allowed⟩
      · have stored := runIn_storeChange (s := s) bag x.call x.item "minus"
          (p.world.store.held x.item - x.amount.toInt)
        rw [← runIn_minusCall_of_held hitem hamount bag none] at stored
        simp only [if_true, none, and_false, or_false, not_not]
        exact stored

/-- **One change.** It is refused and changes nothing, or it recounts the item. -/
theorem runIn_callTop_change {x : Change} (bag : p.world.store.IsBag) (room : p.depth < s.limit)
    (h : x.Written s.library) :
    (x.Refused p.world.store ∧ ∃ fault, (callTop x.call).runIn s p = (.error fault, p) ∧
        fault.cause = x.refusal p.world.store) ∨
      (¬ x.Refused p.world.store ∧ ∃ left : Int64, left.toInt = x.due p.world.store ∧
        (callTop x.call).runIn s p =
          (.ok .null, p.withStore (p.world.store.recount x.item left))) := by
  have inside : p.deeper.world.store.IsBag := bag
  by_cases refused : x.Refused p.world.store
  · exact .inl ⟨refused, runIn_callTop_of_error h.found room (P := (· = x.refusal p.world.store))
      fun call => (runIn_builtin_change call inside h).1 refused⟩
  · refine .inr ⟨refused, ?_⟩
    obtain ⟨left, hleft, -⟩ := (runIn_builtin_change callTop inside h).2 refused
    refine ⟨left, hleft, runIn_callTop_of_ok h.found room fun call => ?_⟩
    obtain ⟨same, hsame, stored⟩ := (runIn_builtin_change call inside h).2 refused
    rw [stored, Int64.toInt_inj.mp (hsame.trans hleft.symm)]
    rfl

theorem goes_callTop {x : Change} (bag : p.world.store.IsBag) (room : p.depth < s.limit)
    (h : x.Written s.library) : x.Goes p ((callTop x.call).runIn s p) := by
  rcases runIn_callTop_change bag room h with ⟨refused, fault, run, cause⟩ | ⟨allowed, left, hleft, run⟩
  · rw [run]
    refine ⟨⟨fun _ => refused, fun _ => ⟨fault, rfl⟩⟩, fun other same => ?_, fun v done => ?_⟩
    · cases same
      exact ⟨cause, rfl⟩
    · cases done
  · rw [run]
    refine ⟨⟨fun ⟨fault, failed⟩ => ?_, fun refused => absurd refused allowed⟩,
      fun fault failed => ?_, fun v done => ?_⟩
    · cases failed
    · cases failed
    · cases done
      refine ⟨rfl, _, rfl, bag.recount x.item left, ?_⟩
      rw [← hleft]
      exact p.world.store.recounted x.item left

/-! ## One change after the other -/

/-- What calls leave that are made one after the other, those that fail included. -/
def after (s : Setting) : Progress → List Call → Progress
  | p, [] => p
  | p, c :: rest => after s ((callTop c).runIn s p).2 rest

/-- **Changes keep the inventory a bag**, and touch nothing but the variables of the story. -/
theorem exists_after {xs : List Change} (bag : p.world.store.IsBag) (room : p.depth < s.limit)
    (h : ∀ x ∈ xs, x.Written s.library) :
    ∃ store : Store, store.IsBag ∧ after s p (xs.map Change.call) = p.withStore store := by
  induction xs generalizing p with
  | nil => exact ⟨p.world.store, bag, rfl⟩
  | cons x xs ih =>
      rw [List.forall_mem_cons] at h
      rw [List.map_cons, after]
      rcases runIn_callTop_change bag room h.1 with ⟨-, fault, run, -⟩ | ⟨-, left, -, run⟩
      · rw [run]
        exact ih bag room h.2
      · rw [run]
        have next : (p.withStore (p.world.store.recount x.item left)).world.store.IsBag :=
          bag.recount x.item left
        exact ih next room h.2

/-! ## Counting -/

/-- Without an argument, all items are counted. -/
theorem runIn_countCall_all {c : Call} (bag : p.world.store.IsBag)
    (hargs : c.args = [] ∨ ∃ f, c.args = [f] ∧ f.isBlank = true) :
    (∀ n : Int64, n.toInt = p.world.store.allHeld →
      (countCall call c).runIn s p = (.ok (.int n), p)) ∧
    (¬ Integer.Fits p.world.store.allHeld → ∃ fault,
      (countCall call c).runIn s p = (.error fault, p) ∧
        fault.cause = .invalidValue (.overflow "count")) := by
  have few : ¬ 1 < c.args.length := by
    rcases hargs with none | ⟨f, one, -⟩
    · simp [none]
    · simp [one]
  have selected : (selector call c.args[0]?).runIn s p = (.ok none, p) := by
    rcases hargs with none | ⟨f, one, blank⟩
    · rw [none]
      rfl
    · have first : c.args[0]? = some f := by rw [one]; rfl
      rw [first]
      unfold selector
      dsimp only
      rw [if_pos blank, runIn_pure]
  unfold countCall
  rw [if_neg few, runIn_bind, selected]
  dsimp only
  rw [runIn_bind, runIn_table bag]
  dsimp only
  rw [runIn_bind, ofOutcome, runIn_pure]
  dsimp only
  obtain ⟨counted, overflow⟩ := bag.total
  constructor
  · intro n hn
    rw [counted n hn]
    rfl
  · intro high
    rw [overflow high]
    exact ⟨_, rfl, rfl⟩

/-- What names no category names an item. -/
theorem runIn_countCall_item (call : Caller) {c : Call} {f : Fragment} (bag : p.world.store.IsBag)
    (hargs : c.args = [f]) (names : Names f item) (plain : item.toList.head? ≠ some '#') :
    ∃ n : Int64, n.toInt = p.world.store.held item ∧
      (countCall call c).runIn s p = (.ok (.int n), p) := by
  have few : ¬ 1 < c.args.length := by simp [hargs]
  have first : c.args[0]? = some f := by rw [hargs]; rfl
  have single : category? item = none := by
    unfold category?
    split
    · next rest sign => simp [sign] at plain
    · rfl
  unfold countCall
  rw [if_neg few, first, runIn_bind, runIn_selector names]
  dsimp only
  rw [runIn_bind, runIn_table bag]
  dsimp only
  rw [runIn_bind, ofOutcome, runIn_pure]
  dsimp only
  rw [single]
  rcases bag.get?_cases item with ⟨missing, zero⟩ | ⟨n, found, count, -⟩
  · refine ⟨0, zero ▸ Int64.toInt_zero, ?_⟩
    rw [missing]
    rfl
  · refine ⟨n, count.symm, ?_⟩
    rw [found]
    rfl

/-! ## Every point of a playthrough -/

/-- The inventory is a bag, changes go as they should, and counting says what is held. -/
structure KeepsBag (s : Setting) (p : Progress) : Prop where
  bag : p.world.store.IsBag
  change : ∀ x : Change, x.Written s.library → x.Goes p ((callTop x.call).runIn s p)
  countAll : ∀ c : Call, s.library.find? c.name = some .count →
    (c.args = [] ∨ ∃ f, c.args = [f] ∧ f.isBlank = true) →
    (∀ n : Int64, n.toInt = p.world.store.allHeld → (callTop c).runIn s p = (.ok (.int n), p)) ∧
    (¬ Integer.Fits p.world.store.allHeld → ∃ fault, (callTop c).runIn s p = (.error fault, p) ∧
      fault.cause = .invalidValue (.overflow "count"))
  countItem : ∀ (c : Call) (f : Fragment) (item : String), s.library.find? c.name = some .count →
    c.args = [f] → Names f item → item.toList.head? ≠ some '#' →
    ∃ n : Int64, n.toInt = p.world.store.held item ∧ (callTop c).runIn s p = (.ok (.int n), p)

theorem keepsBag_of_isBag (bag : p.world.store.IsBag) (room : p.depth < s.limit) : KeepsBag s p where
  bag := bag
  change x h := goes_callTop bag room h
  countAll c found hargs := by
    have inside : p.deeper.world.store.IsBag := bag
    refine ⟨fun n hn => ?_, fun high => ?_⟩
    · exact runIn_callTop_of_ok found room fun call => (runIn_countCall_all inside hargs).1 n hn
    · exact runIn_callTop_of_error found room
        (P := (· = .invalidValue (.overflow "count"))) fun call =>
          (runIn_countCall_all inside hargs).2 high
  countItem c f item found hargs names plain := by
    have inside : p.deeper.world.store.IsBag := bag
    obtain ⟨n, hn, -⟩ := runIn_countCall_item (s := s) callTop inside hargs names plain
    refine ⟨n, hn, runIn_callTop_of_ok found room fun call => ?_⟩
    obtain ⟨m, hm, run⟩ := runIn_countCall_item (s := s) call inside hargs names plain
    rw [Int64.toInt_inj.mp (hn.trans hm.symm)]
    exact run

/-- **The inventory is a bag of positive counts**, whatever changes were made before and whether or not they
failed. Of what expansion works on, they touch the variables of the story alone. -/
theorem inventory_stays_bag {start : Progress} (bag : start.world.store.IsBag)
    (room : start.depth < s.limit) {earlier : List Change}
    (written : ∀ x ∈ earlier, x.Written s.library) :
    KeepsBag s (after s start (earlier.map Change.call)) ∧
      ∃ store, after s start (earlier.map Change.call) = start.withStore store := by
  obtain ⟨store, still, run⟩ := exists_after bag room written
  rw [run]
  exact ⟨keepsBag_of_isBag still room, store, rfl⟩

/-- A rope and a lamp. -/
def packed : Progress :=
  { (default : Progress) with
    world := { (default : World) with
      store := ⟨[("inv", .mapping [("rope", .int 2), ("lamp", .int 1)]), ("mood", .text "calm")]⟩ } }

/-- A negative amount, which uses up the rope. -/
def ropeUsed : Change :=
  ⟨⟨"plus", [⟨6, " rope ".toList⟩, ⟨13, " -2".toList⟩], ⟨0, "(plus~ rope ~ -2)".toList⟩⟩,
    false, "rope", -2⟩

theorem written_ropeUsed : ropeUsed.Written ⟨["inventory"]⟩ where
  found := by decide +kernel
  item := by
    refine ⟨⟨6, " rope ".toList⟩, [⟨13, " -2".toList⟩], rfl, by decide, by decide, ?_, by decide +kernel⟩
    have trimmed : (⟨6, " rope ".toList⟩ : Fragment).trim.chars = ['r', 'o', 'p', 'e'] := by decide
    rw [trimmed]
    exact Markup.allPlain_of_inactive (by simp [activeChars])
  amount := by
    have blank : ∀ c ∈ [' '], Text.isBlank c = true := by simp [Text.isBlank]
    exact amounts_literal (by decide) blank (by decide +kernel)

theorem packed_stays_bag :
    let s : Setting := { (default : Setting) with library := ⟨["inventory"]⟩, limit := 1 }
    Markup.scan (.ofString "(plus~ rope ~ -2)") = .ok [.call ropeUsed.call] ∧
      packed.world.store.IsBag ∧ packed.depth < s.limit ∧ (∀ x ∈ [ropeUsed], x.Written s.library) ∧
      KeepsBag s (after s packed ([ropeUsed].map Change.call)) ∧
      ∃ store, after s packed ([ropeUsed].map Change.call) = packed.withStore store := by
  intro s
  have bag : packed.world.store.IsBag := by
    refine Store.isBag_withInventory (s := ⟨[("inv", .null), ("mood", .text "calm")]⟩) (by decide) ?_
    simp [Value.IsCount]
  have written : ∀ x ∈ [ropeUsed], x.Written s.library := by
    rintro x hx
    rw [List.mem_singleton.mp hx]
    exact written_ropeUsed
  exact ⟨by decide +kernel, bag, by decide, written, inventory_stays_bag bag (by decide) written⟩

end Expansion

end Fiction
