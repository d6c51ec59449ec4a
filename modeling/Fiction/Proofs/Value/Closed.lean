import Fiction.Operator.Apply
import Fiction.Proofs.Markup.Pieces
import Fiction.Proofs.Value.Parts

/-!
# Fiction.Proofs.Value.Closed

**What operators compute and how they fail.**

* `Value.Closed` is a property of values that no change of a collection loses. That no key is repeated
  is one (`closed_keyed`), and so is no property at all (`closed_true`).
* `Outcome.All` says of an operation that what it gives has a property, and that it does not fail as
  broken markup does.
* `apply_closed`, `applyThird_closed` and `reduce_closed` are the results for operators, and
  `index_closed` is the one for elements.
-/

namespace Fiction

/-! ## Outcomes -/

/-- What an operation gives has a property. If it fails, then not because of broken markup. -/
def Outcome.All {α : Type} (P : α → Prop) : Outcome α → Prop
  | .ok a => P a
  | .error cause => cause.isBrokenMarkup = false

namespace Outcome.All

variable {α β : Type} {P : α → Prop} {Q : β → Prop} {x : Outcome α}

theorem of_ok {a : α} (h : All P x) (hx : x = .ok a) : P a := by
  rw [hx] at h
  exact h

theorem of_error {cause : Cause} (h : All P x) (hx : x = .error cause) :
    cause.isBrokenMarkup = false := by
  rw [hx] at h
  exact h

theorem bind {f : α → Outcome β} (hx : All P x) (hf : ∀ a, P a → All Q (f a)) :
    All Q (x >>= f) := by
  cases x with
  | ok a => exact hf a hx
  | error cause => exact hx

end Outcome.All

/-! ## Closed properties -/

namespace Value

/-- A property that atoms have, that a list has if its items do, and that a mapping keeps when its
values are exchanged for others with the property, when an entry is written and when entries are left
out. -/
structure Closed (good : Value → Prop) : Prop where
  atom : ∀ {v}, v.IsAtom → good v
  list : ∀ {items}, good (.list items) ↔ ∀ v ∈ items, good v
  empty : good (.mapping [])
  values : ∀ {m}, good (.mapping m) → ∀ entry ∈ m, good entry.2
  insert : ∀ {m v}, good (.mapping m) → good v → ∀ key, good (.mapping (Mapping.insert m key v))
  filter : ∀ {m}, good (.mapping m) → ∀ keep, good (.mapping (List.filter keep m))
  exchange : ∀ {m m'}, good (.mapping m) → m'.map Prod.fst = m.map Prod.fst →
    (∀ entry ∈ m', good entry.2) → good (.mapping m')

/-- No property at all is closed: this is for when only the way to fail matters. -/
theorem closed_true : Closed fun _ => True := by
  constructor <;> simp

/-- No operation makes a repeated key out of mappings that have none. -/
theorem closed_keyed : Closed Keyed where
  atom := keyed_of_isAtom
  list := keyed_list_iff
  empty := keyed_mapping_iff.mpr ⟨List.nodup_nil, List.forall_mem_nil _⟩
  values h := (keyed_mapping_iff.mp h).2
  insert h hv key := by
    obtain ⟨distinct, values⟩ := keyed_mapping_iff.mp h
    refine keyed_mapping_iff.mpr ⟨Mapping.distinct_insert distinct, fun entry hentry => ?_⟩
    rcases Mapping.mem_insert hentry with old | rfl
    · exact values entry old
    · exact hv
  filter h keep := by
    obtain ⟨distinct, values⟩ := keyed_mapping_iff.mp h
    exact keyed_mapping_iff.mpr
      ⟨distinct.filter keep, fun entry hentry => values entry (List.mem_filter.mp hentry).1⟩
  exchange h same values := by
    refine keyed_mapping_iff.mpr ⟨?_, values⟩
    unfold Mapping.Distinct
    rw [same]
    exact (keyed_mapping_iff.mp h).1

namespace Closed

variable {good : Value → Prop} (closed : Closed good) {items : List Value} {m other : Mapping Value}

include closed

theorem of_get? {key : String} {v : Value} (h : good (.mapping m))
    (hv : Mapping.get? m key = some v) : good v :=
  closed.values h _ (Mapping.mem_of_get? hv)

/-- Writing entries one after the other, some of them perhaps not. -/
theorem foldl {back : List (String × Value)} {write : Mapping Value → String × Value → Mapping Value}
    (hwrite : ∀ m entry, write m entry = Mapping.insert m entry.1 entry.2 ∨ write m entry = m)
    (h : good (.mapping m)) (hback : ∀ entry ∈ back, good entry.2) :
    good (.mapping (back.foldl write m)) := by
  induction back generalizing m with
  | nil => exact h
  | cons entry rest ih =>
      obtain ⟨first, others⟩ := List.forall_mem_cons.mp hback
      refine ih ?_ others
      rcases hwrite m entry with written | kept
      · rw [written]
        exact closed.insert h first entry.1
      · rw [kept]
        exact h

/-- Joining two mappings, whichever of them wins where both have a key. -/
theorem union (h : good (.mapping m)) (hother : good (.mapping other)) (overwrite : Bool) :
    good (.mapping (Mapping.union m other overwrite)) := by
  refine closed.foldl (fun m entry => ?_) h (closed.values hother)
  dsimp only
  split
  · exact .inl rfl
  · exact .inr rfl

theorem ofEntries {entries : List (String × Value)} (h : ∀ entry ∈ entries, good entry.2) :
    good (.mapping (Mapping.ofEntries entries)) :=
  closed.foldl (fun _ _ => .inl rfl) closed.empty h

/-- What is left of a mapping are entries of the other one, under keys that it had. -/
theorem restrict (h : good (.mapping m)) (hother : good (.mapping other)) :
    good (.mapping (Mapping.restrict m other)) :=
  closed.exchange (closed.filter h fun entry => Mapping.contains other entry.1)
    (Mapping.map_fst_restrict m other)
    fun entry hentry => closed.values hother entry (Mapping.mem_of_mem_restrict hentry)

theorem append {items' : List Value} (h : good (.list items)) (h' : good (.list items')) :
    good (.list (items ++ items')) := by
  rw [closed.list] at h h' ⊢
  exact List.forall_mem_append.mpr ⟨h, h'⟩

/-- An item of a list, or null where there is none. -/
theorem getD (h : ∀ v ∈ items, good v) (index : Nat) : good (items.getD index .null) := by
  rw [List.getD_eq_getElem?_getD]
  cases found : items[index]? with
  | none => exact closed.atom trivial
  | some v => exact h v (List.mem_of_getElem? found)

theorem textList (pieces : List (List Char)) : good (Operator.textList pieces) := by
  refine closed.list.mpr fun v hv => ?_
  obtain ⟨piece, _, rfl⟩ := List.mem_map.mp hv
  exact closed.atom trivial

/-- What an empty list is folded to is an atom or an empty collection. -/
theorem zeroLike (v : Value) : good v.zeroLike := by
  cases v with
  | null | bool b | int n | real x | text s => exact closed.atom trivial
  | list items => exact closed.list.mpr (List.forall_mem_nil _)
  | mapping entries => exact closed.empty

end Closed

end Value

/-! ## Operators -/

namespace Operator

open Value

/-- Repeating too often fails, but not as broken markup does. -/
theorem repeatCount_quiet (what : String) (length : Nat) (count : Int64) :
    Outcome.All (fun _ => True) (repeatCount what length count) := by
  unfold repeatCount
  split
  · exact rfl
  · split
    · trivial
    · split
      · trivial
      · exact rfl

/-- A pattern that is no pattern is not broken markup either. -/
theorem compile_quiet (pattern : String) : Outcome.All (fun _ => True) (compile pattern) := by
  unfold compile
  split
  · trivial
  · exact rfl

theorem patternText_quiet (operation : String) (v : Value) :
    Outcome.All (fun _ => True) (patternText operation v) := by
  cases v with
  | text s => trivial
  | null | bool b | int n | real x | list items | mapping entries => exact rfl

variable {good : Value → Prop} (closed : Closed good) {a b c : Value}

include closed

/-- Integers that fit are atoms, and others are an overflow. -/
theorem fitted_closed (operation : String) (result : Option Int64) :
    Outcome.All good (fitted operation result) := by
  cases result with
  | some n => exact closed.atom trivial
  | none => exact rfl

omit closed in
theorem onReals_closed {operation : String} {f : Float → Float → Outcome Value}
    (hf : ∀ x y, Outcome.All good (f x y)) : Outcome.All good (onReals operation a b f) := by
  unfold onReals
  split
  · exact hf _ _
  · exact rfl

theorem divideReals_closed {operation : String} {f : Float → Float → Float} :
    Outcome.All good (divideReals operation a b f) := by
  refine onReals_closed fun x y => ?_
  split
  · exact rfl
  · exact closed.atom trivial

theorem repeatText_closed (s : String) (count : Int64) : Outcome.All good (repeatText s count) :=
  (repeatCount_quiet _ _ _).bind fun _ _ => closed.atom trivial

/-- Copies of a list have the items of the list. -/
theorem repeatList_closed {items : List Value} (h : good (.list items)) (count : Int64) :
    Outcome.All good (repeatList items count) := by
  refine (repeatCount_quiet _ _ _).bind fun n _ => closed.list.mpr fun v hv => ?_
  obtain ⟨copy, hcopy, inside⟩ := List.mem_flatten.mp hv
  rw [List.eq_of_mem_replicate hcopy] at inside
  exact closed.list.mp h v inside

/-- Sums. Lists and mappings are put together, all else gives an atom. -/
theorem add_closed (ha : good a) (hb : good b) : Outcome.All good (add a b) := by
  unfold add
  split
  · exact fitted_closed closed _ _
  · exact closed.atom trivial
  · exact closed.atom trivial
  · exact closed.append ha hb
  · exact closed.union ha hb true
  · exact onReals_closed fun _ _ => closed.atom trivial

/-- Differences. Of a mapping entries are left out. -/
theorem subtract_closed (ha : good a) : Outcome.All good (subtract a b) := by
  unfold subtract
  split
  · exact fitted_closed closed _ _
  · exact closed.atom trivial
  · exact closed.filter ha _
  · exact onReals_closed fun _ _ => closed.atom trivial

/-- Products. Texts and lists are repeated. -/
theorem multiply_closed (ha : good a) (hb : good b) : Outcome.All good (multiply a b) := by
  unfold multiply
  split
  · exact fitted_closed closed _ _
  · exact repeatText_closed closed _ _
  · exact repeatText_closed closed _ _
  · exact repeatList_closed closed ha _
  · exact repeatList_closed closed hb _
  · exact onReals_closed fun _ _ => closed.atom trivial

/-- Quotients of numbers and what is found in a text are atoms. -/
theorem divide_closed : Outcome.All good (divide a b) := by
  unfold divide
  split
  · split
    · exact rfl
    · split
      · exact fitted_closed closed _ _
      · exact divideReals_closed closed
  · exact (compile_quiet _).bind fun _ _ => closed.atom trivial
  · exact closed.atom trivial
  · exact divideReals_closed closed

theorem floorDivide_closed : Outcome.All good (floorDivide a b) := by
  unfold floorDivide
  split
  · split
    · exact rfl
    · exact fitted_closed closed _ _
  · exact closed.atom trivial
  · exact closed.atom trivial
  · exact divideReals_closed closed

theorem modulo_closed : Outcome.All good (modulo a b) := by
  unfold modulo
  split
  · split
    · exact rfl
    · exact fitted_closed closed _ _
  · exact divideReals_closed closed

theorem raise_closed : Outcome.All good (raise a b) := by
  unfold raise
  split
  · split
    · exact closed.atom trivial
    · exact fitted_closed closed _ _
  · exact onReals_closed fun _ _ => closed.atom trivial

theorem order_closed (operation : String) (accept : Ordering → Bool) :
    Outcome.All good (order operation a b accept) := by
  unfold order
  split
  · exact closed.atom trivial
  · exact rfl

/-- Of two mappings the common keys are kept, with the values on the right. -/
theorem intersect_closed (ha : good a) (hb : good b) : Outcome.All good (intersect a b) := by
  unfold intersect
  split
  · exact closed.atom trivial
  · exact closed.atom trivial
  · exact closed.restrict ha hb
  · exact rfl

/-- Of two mappings the values on the left are kept. -/
theorem unite_closed (ha : good a) (hb : good b) : Outcome.All good (unite a b) := by
  unfold unite
  split
  · exact closed.atom trivial
  · exact closed.atom trivial
  · exact closed.union ha hb false
  · exact rfl

/-- Pieces of a text are texts. -/
theorem splitPattern_closed : Outcome.All good (splitPattern a b) := by
  unfold splitPattern
  split
  · exact (compile_quiet _).bind fun _ _ => closed.textList _
  · exact closed.atom trivial
  · exact closed.atom trivial
  · exact rfl

theorem splitLiteral_closed : Outcome.All good (splitLiteral a b) := by
  unfold splitLiteral
  split
  · split
    · exact rfl
    · exact closed.textList _
  · exact rfl

/-- Another item behind a list. -/
theorem append_closed (ha : good a) (hb : good b) : Outcome.All good (append a b) := by
  unfold append
  split
  · exact closed.append ha (closed.list.mpr (List.forall_mem_singleton.mpr hb))
  · exact closed.atom trivial
  · exact rfl

/-- **An operator keeps every closed property.** -/
theorem apply_closed (op : Operator) (ha : good a) (hb : good b) :
    Outcome.All good (op.apply a b) := by
  cases op with
  | plus => exact add_closed closed ha hb
  | minus => exact subtract_closed closed ha
  | times => exact multiply_closed closed ha hb
  | slash => exact divide_closed closed
  | doubleSlash => exact floorDivide_closed closed
  | percent => exact modulo_closed closed
  | doublePercent => exact rfl
  | power => exact raise_closed closed
  | caret => exact splitPattern_closed closed
  | doubleCaret => exact splitLiteral_closed closed
  | dot => exact append_closed closed ha hb
  | bar => exact unite_closed closed ha hb
  | ampersand => exact intersect_closed closed ha hb
  | equal | unequal => exact closed.atom trivial
  | less | greater | atMost | atLeast => exact order_closed closed _ _
  -- of the two sides one is the result
  | and =>
      change good (if a.isTruthy then b else a)
      split
      · exact hb
      · exact ha
  | or =>
      change good (if a.isTruthy then a else b)
      split
      · exact ha
      · exact hb

/-- Texts are replaced by texts, in a list item by item; other items stay. -/
theorem replacePattern_closed (ha : good a) : Outcome.All good (replacePattern a b c) := by
  refine (patternText_quiet _ _).bind fun p _ => ?_
  dsimp only
  split
  · exact (compile_quiet _).bind fun _ _ => closed.atom trivial
  · have machine : Outcome.All (fun _ => True) (compileWhole p) :=
      (compile_quiet p).bind fun _ _ => compile_quiet _
    refine machine.bind fun machine _ => closed.list.mpr fun v hv => ?_
    obtain ⟨item, hitem, rfl⟩ := List.mem_map.mp hv
    have own : good item := closed.list.mp ha item hitem
    split
    · split
      · exact closed.atom trivial
      · exact own
    · exact own
  · exact rfl

/-- Items that equal a value are replaced by another value. -/
theorem replaceLiteral_closed (ha : good a) (hc : good c) :
    Outcome.All good (replaceLiteral a b c) := by
  unfold replaceLiteral
  split
  · exact (patternText_quiet _ _).bind fun _ _ => closed.atom trivial
  · refine closed.list.mpr fun v hv => ?_
    obtain ⟨item, hitem, rfl⟩ := List.mem_map.mp hv
    split
    · exact hc
    · exact closed.list.mp ha item hitem
  · exact rfl

/-- Writing an entry is what a closed property allows for. -/
theorem insertEntry_closed (ha : good a) (hc : good c) : Outcome.All good (insertEntry a b c) := by
  unfold insertEntry
  split
  · exact closed.insert ha hc _
  · exact rfl
  · exact rfl

/-- **An operator with three operands keeps every closed property.** The operand in the middle is
only compared with, or is a key. -/
theorem applyThird_closed (op : Operator) (ha : good a) (hc : good c) :
    Outcome.All good (op.applyThird a b c) := by
  unfold applyThird
  split
  · exact replacePattern_closed closed ha
  · exact replaceLiteral_closed closed ha hc
  · exact insertEntry_closed closed ha hc
  · exact rfl

/-- Folding applies the operator twice for each item: the seed stands between items. -/
theorem reduceFrom_closed (op : Operator) {seed acc : Value} {items : List Value}
    (hseed : good seed) (hacc : good acc) (hitems : ∀ v ∈ items, good v) :
    Outcome.All good (reduceFrom op seed acc items) := by
  induction items generalizing acc with
  | nil => exact hacc
  | cons v rest ih =>
      obtain ⟨first, hrest⟩ := List.forall_mem_cons.mp hitems
      refine (apply_closed closed op hacc hseed).bind fun joined hjoined => ?_
      exact (apply_closed closed op hjoined first).bind fun _ hnext => ih hnext hrest

/-- **Folding keeps every closed property.** -/
theorem reduce_closed (op : Operator) {seed : Value} {items : List Value} (hseed : good seed)
    (hitems : ∀ v ∈ items, good v) : Outcome.All good (op.reduce items seed) := by
  cases items with
  | nil => exact closed.zeroLike seed
  | cons first rest =>
      obtain ⟨hfirst, hrest⟩ := List.forall_mem_cons.mp hitems
      exact reduceFrom_closed closed op hseed hfirst hrest

end Operator

/-- A sign gives an atom or fails, whatever it is applied to. -/
theorem Prefix.apply_closed {good : Value → Prop} (closed : Value.Closed good) (op : Prefix)
    (v : Value) : Outcome.All good (op.apply v) := by
  unfold Prefix.apply
  split
  · exact Operator.fitted_closed closed _ _
  · exact closed.atom trivial
  · exact rfl
  · exact closed.atom trivial
  · exact closed.atom trivial
  · exact rfl
  · exact closed.atom trivial

namespace Value

/-- Counting from the end finds items of the list as well. -/
theorem mem_of_atPosition? {α : Type} {items : List α} {i : Int} {a : α}
    (h : atPosition? items i = some a) : a ∈ items := by
  unfold atPosition? at h
  dsimp only at h
  generalize (if i < 0 then (items.length : Int) + i else i) = position at h
  split at h
  · exact List.mem_of_getElem? h
  · cases h

/-- **An element of a collection has the property of the collection.** -/
theorem index_closed {good : Value → Prop} (closed : Closed good) {v index : Value} (h : good v) :
    Outcome.All good (v.index index) := by
  unfold Value.index
  split
  · split
    · next found => exact closed.list.mp h _ (mem_of_atPosition? found)
    · exact rfl
  · dsimp only
    split
    · exact closed.atom trivial
    · exact rfl
  · split
    · next found => exact closed.of_get? h found
    · exact rfl
  · exact rfl

end Value

end Fiction
