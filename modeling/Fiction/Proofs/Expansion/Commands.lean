import Fiction.Proofs.Expansion.Injection
import Fiction.Proofs.Expansion.Literal
import Fiction.Proofs.Expansion.PlainText
import Fiction.Proofs.Markup.Inert
import Fiction.Proofs.Markup.Lossless
import Fiction.Proofs.Path

/-!
# Fiction.Proofs.Expansion.Commands

**A command means the same as a literal and as a call.** A literal command holds its path and value;
one that is a call has them written in markup, which is scanned, cut into arguments, expanded and
evaluated when the link is followed.

* `Markup.scan_inert_call` and `Markup.arguments_inert` take a call apart whose arguments are inert.
* `Expansion.runIn_pathArgument` and `Expansion.runIn_evaluate_literal` find the path and the value.
* `Expansion.runCommand_literal_eq_call` is the main statement.
-/

namespace Fiction

/-! ## Taking the call apart -/

namespace Text

theorem foldr_consPiece (cs piece : List Char) (rest : List (List Char)) :
    cs.foldr consPiece (piece :: rest) = (cs ++ piece) :: rest := by
  induction cs with
  | nil => rfl
  | cons c cs ih => rw [List.foldr_cons, ih, consPiece, List.cons_append]

end Text

/-- The first character of an inert text that is not blank is no tilde. -/
theorem Inert.exists_dropWhile {cs : List Char} (h : Inert cs)
    (visible : Text.isEmptyText cs = false) :
    ∃ c ds, cs.dropWhile Text.isBlank = c :: ds ∧ c ≠ '~' := by
  have stops {c : Char} {ds : List Char} (hc : Text.isBlank c = false) (tilde : c ≠ '~') :
      ∃ first rest, (c :: ds).dropWhile Text.isBlank = first :: rest ∧ first ≠ '~' :=
    ⟨c, ds, List.dropWhile_cons_of_neg (by simp [hc]), tilde⟩
  induction h with
  | nil => cases visible
  | @plain c cs hc _ ih =>
      cases blank : Text.isBlank c with
      | true =>
          rw [List.dropWhile_cons_of_pos blank]
          refine ih ?_
          simpa [Text.isEmptyText, blank] using visible
      | false =>
          refine stops blank ?_
          rintro rfl
          exact hc (by decide)
  | quoted _ => exact stops (by decide) (by decide)
  | bracketed hpair _ _ =>
      simp only [List.mem_cons, List.not_mem_nil, or_false] at hpair
      rcases hpair with rfl | rfl
      all_goals exact stops (by decide) (by decide)

namespace Markup

/-- An inert body is closed by the next parenthesis. -/
theorem takeCall_inert_closed {body : List Char} (h : Inert body) :
    takeCall ⟨1, false, false⟩ (body ++ [')']) = some (body, []) := by
  rw [takeCall_inert h]
  simp [takeCall, Nesting.isBare]

/-- So is one of two inert texts with a tilde between them. -/
theorem takeCall_inert_pair_closed {first second : List Char} (hfirst : Inert first)
    (hsecond : Inert second) : takeCall ⟨1, false, false⟩ (first ++ '~' :: second ++ [')']) =
      some (first ++ '~' :: second, []) := by
  have tilde : ∀ c ∈ ['~'], Bracketing.call.isSpecial c = false :=
    List.all_iff_forall_prop.mp (by decide)
  rw [List.append_assoc, List.cons_append, ← List.singleton_append, takeCall_inert hfirst,
    takeCall_plain rfl tilde, takeCall_inert_closed hsecond]
  rfl

/-- No tilde stands in front of the arguments if the first one is inert and not blank. -/
theorem arguments_eq_splitTop (offset : Nat) {first : List Char} (rest : List Char)
    (hfirst : Inert first) (visible : Text.isEmptyText first = false) :
    arguments ⟨offset, first ++ rest⟩ =
      Fragment.splitTop .argument '~' ⟨offset, first ++ rest⟩ := by
  obtain ⟨c, ds, hdrop, tilde⟩ := hfirst.exists_dropWhile visible
  have front : (first ++ rest).dropWhile Text.isBlank = c :: (ds ++ rest) := by
    rw [List.dropWhile_append, hdrop]
    rfl
  have notBlank : Fragment.isBlank ⟨offset, first ++ rest⟩ = false := by
    unfold Text.isEmptyText at visible
    simp only [Fragment.isBlank, Text.isEmptyText, List.all_append, visible, Bool.false_and]
  unfold arguments
  dsimp only
  rw [front]
  split
  · next found => exact absurd (List.cons.inj found).1 tilde
  · rw [notBlank, if_neg Bool.false_ne_true]

/-- An inert text that is not blank is one argument. -/
theorem arguments_inert {offset : Nat} {first : List Char} (hfirst : Inert first)
    (visible : Text.isEmptyText first = false) :
    arguments ⟨offset, first⟩ = [⟨offset, first⟩] := by
  have parts := arguments_eq_splitTop offset [] hfirst visible
  have split := Bracketing.splitTop_inert hfirst []
  rw [List.append_nil] at parts split
  rw [parts, Fragment.splitTop, split, Bracketing.splitTop, Text.foldr_consPiece, List.append_nil]
  rfl

/-- Two inert texts with a tilde between them are two arguments. -/
theorem arguments_inert_pair {offset : Nat} {first second : List Char} (hfirst : Inert first)
    (hsecond : Inert second) (visible : Text.isEmptyText first = false) :
    arguments ⟨offset, first ++ '~' :: second⟩ =
      [⟨offset, first⟩, ⟨offset + Text.byteLength first + 1, second⟩] := by
  have split := Bracketing.splitTop_inert hsecond []
  rw [List.append_nil, Bracketing.splitTop, Text.foldr_consPiece, List.append_nil] at split
  rw [arguments_eq_splitTop _ _ hfirst visible, Fragment.splitTop,
    Bracketing.splitTop_inert hfirst, Bracketing.splitTop, if_pos (by decide), split,
    Text.foldr_consPiece, List.append_nil]
  rfl

/-- A text without active characters is plain text. -/
theorem allPlain_of_inactive {cs : List Char} (h : ∀ c ∈ cs, c ∉ activeChars) :
    AllPlain false cs := by
  induction cs with
  | nil => trivial
  | cons c cs ih =>
      rw [List.forall_mem_cons] at h
      have inactive {d : Char} (active : d ∈ activeChars) : c ≠ d := fun same => h.1 (same ▸ active)
      refine ⟨.inr (.inr ⟨fun opens => ?_, fun opens => ?_⟩), ?_⟩
      · exact absurd opens (inactive (by decide))
      · exact absurd opens (inactive (by decide))
      · simpa [inactive (d := '\\') (by decide)] using ih h.2

theorem unescape_inactive {cs : List Char} (h : ∀ c ∈ cs, c ∉ activeChars) : unescape cs = cs := by
  induction cs with
  | nil => rfl
  | cons c cs ih =>
      rw [List.forall_mem_cons] at h
      have slash : c ≠ '\\' := by
        rintro rfl
        exact h.1 (by decide)
      rw [unescape_cons slash, ih h.2]

end Markup

/-- A literal is not blank. -/
theorem Value.isEmptyText_literal {v : Value} (hv : v.RealFree) :
    Text.isEmptyText v.literal.toList = false := by
  have visible {c : Char} {cs : List Char} (hc : c ∈ cs) (hblank : Text.isBlank c = false) :
      Text.isEmptyText cs = false := by
    rw [Text.isEmptyText, List.all_eq_false]
    exact ⟨c, hc, by simp [hblank]⟩
  cases v with
  | null => decide
  | bool b => cases b <;> decide
  | int n =>
      have digit (k : Nat) : ∃ c ∈ Decimal.digits k, Text.isBlank c = false := by
        obtain ⟨c, cs, hcs⟩ := List.exists_cons_of_ne_nil (Decimal.digits_ne_nil k)
        have first : c ∈ Decimal.digits k := hcs ▸ List.mem_cons_self
        exact ⟨c, first, Decimal.isBlank_of_isDigit (Decimal.isDigit_of_mem_digits first)⟩
      rw [literal]
      cases n.toInt with
      | ofNat k =>
          obtain ⟨c, hc, hblank⟩ := digit k
          exact visible (by simpa [Decimal.ofInt] using hc) hblank
      | negSucc k =>
          exact visible (c := '-') (by simp [Decimal.ofInt]) (by decide)
  | real x => exact absurd rfl (hv (.real x) (by simp [parts]))
  | text s => exact visible (c := '"') (by simp [literal]) (by decide)
  | list items => exact visible (c := '[') (by simp [literal]) (by decide)
  | mapping entries => exact visible (c := '{') (by simp [literal]) (by decide)

/-! ## Running the call -/

/-- Whatever modules are enabled, the calls that are always there are found by their names. -/
theorem Library.find?_standard (l : Library) {b : Builtin} (hb : b ∈ Builtin.standard) :
    l.find? b.name = some b := by
  have standard : ∀ b ∈ Builtin.standard, ∀ entry ∈ Builtin.standard.map (fun b => (b.name, b)),
      entry.1 = b.name → entry.2 = b := by decide
  have inventory : ∀ b ∈ Builtin.standard, ∀ entry ∈ moduleEntries "inventory",
      entry.1 ≠ b.name := by decide
  have there : Mapping.contains l.entries b.name = true := by
    refine Mapping.contains_ofEntries ?_
    rw [List.map_append, List.mem_append, List.map_map]
    exact .inl (List.mem_map.mpr ⟨b, hb, rfl⟩)
  obtain ⟨found, hfound⟩ := Option.isSome_iff_exists.mp there
  rw [find?, hfound]
  rcases List.mem_append.mp (Mapping.mem_of_get?_ofEntries hfound) with mem | mem
  · exact congrArg some (standard b hb _ mem rfl)
  · obtain ⟨module, -, mem⟩ := List.mem_flatMap.mp mem
    by_cases hmodule : module = "inventory"
    · exact absurd rfl (inventory b hb _ (hmodule ▸ mem))
    · rw [moduleEntries_of_ne hmodule] at mem
      exact absurd mem List.not_mem_nil

namespace Expansion

variable {call : Caller} {s : Setting} {p : Progress}

/-- Markup that is one call is what the call renders as. -/
theorem runIn_markup_of_call {f : Fragment} {c : Call} (h : Markup.scan f = .ok [.call c]) :
    (markup call f).runIn s p =
      (((call c).runIn s p).1.map fun v => v.display ++ "", ((call c).runIn s p).2) := by
  unfold markup nestedMarkup
  rw [h, runIn_bind, ofFlaw, runIn_pure]
  dsimp only
  unfold segments
  rw [runIn_bind]
  rcases (call c).runIn s p with ⟨r, q⟩
  cases r with
  | ok v => rfl
  | error fault => rfl

/-- Markup without active characters is the text itself. -/
theorem runIn_markup_inactive {f : Fragment} (h : ∀ c ∈ f.chars, c ∉ activeChars) :
    (markup call f).runIn s p = (.ok f.text, p) := by
  rw [runIn_markup_of_allPlain (Markup.allPlain_of_inactive h), Markup.unescape_inactive h,
    Fragment.text]

/-- An argument that is a path with blanks around it. -/
theorem runIn_pathArgument {path : Path} (hpath : path.IsProper)
    (hplain : ∀ c ∈ path.text.toList, c ∉ activeChars) {f : Fragment}
    (hf : f.trim.chars = path.text.toList) : (pathArgument call f).runIn s p = (.ok path, p) := by
  have text : f.trim.text = path.text := by rw [Fragment.text, hf, String.ofList_toList]
  unfold pathArgument
  rw [runIn_bind, runIn_markup_inactive (by rw [hf]; exact hplain), text]
  dsimp only
  rw [Path.parse_text hpath, ofOutcome, runIn_pure]

/-- Two computations that end in the same progress and both succeed or fail for the same cause. -/
def SameEffect (x y : Expansion Unit) (s : Setting) (p : Progress) : Prop :=
  (x.runIn s p).1.mapError Fault.cause = (y.runIn s p).1.mapError Fault.cause ∧
    (x.runIn s p).2 = (y.runIn s p).2

/-- A literal command agrees with a call that makes the same change. -/
theorem sameEffect_of_change {α : Type} {verb : Verb} {path : Path} {value : Option Value}
    {source : String} {c : Call} (span : Span) {f : Store → Outcome α × Store}
    (hliteral : ∀ p, (literalCommand (.literal verb path value) verb path value).runIn s p =
      (do return (← change path f).map fun _ => ()).runIn s p)
    (hscan : Markup.scan (.ofString source) = .ok [.call c])
    (hcall : ∀ call p, (dispatch call c).runIn s p =
      (do let _ ← ofOutcome span (← change path f); return .null : Expansion Value).runIn s p)
    (room : p.depth < s.limit) :
    SameEffect (runCommand (.literal verb path value)) (runCommand (.call verb source)) s p := by
  obtain ⟨k, hk⟩ : ∃ k, s.limit - (p.enterCommand source).depth = k + 1 :=
    ⟨s.limit - p.depth - 1, show s.limit - p.depth = _ by omega⟩
  -- inside of the call the variables are the same
  have locals : (p.enterCommand source).deeper.scope.locals = p.scope.locals := rfl
  have store : (p.enterCommand source).deeper.world.store = p.world.store := rfl
  unfold SameEffect runCommand markupTop
  rw [runIn_bind, hliteral, runIn_bind, runIn_change, runIn_borrowing, runIn_bind, runIn_room, hk,
    runIn_markup_of_call hscan, callWith, runIn_mapFault, runIn_borrowing, hcall, runIn_bind,
    runIn_change, locals, store]
  rcases Scope.write p.scope.locals p.world.store path f with ⟨result, locals, store⟩
  cases result with
  | ok a => exact ⟨rfl, rfl⟩
  | error cause => exact ⟨rfl, rfl⟩

/-- A call of the library that is always there. -/
theorem runIn_dispatch_standard {b : Builtin} (hb : b ∈ Builtin.standard) {c : Call}
    (hname : c.name = b.name) : (dispatch call c).runIn s p = (builtin call c b).runIn s p := by
  unfold dispatch
  rw [runIn_bind, runIn_read]
  dsimp only
  rw [hname, Library.find?_standard _ hb]

section

variable {c : Call} {path : Path} {first : Fragment} (hpath : path.IsProper)
  (hplain : ∀ c ∈ path.text.toList, c ∉ activeChars) (hfirst : first.trim.chars = path.text.toList)
  (hvisible : first.isBlank = false)

include hpath hplain hfirst hvisible

/-- The path of a call that has nothing else. -/
theorem runIn_pathCall (hargs : c.args = [first]) (k : Path → Expansion Value) :
    (do
      ofFlaw (Traversal.checkArguments .invert c)
      let path ← pathArgument call (argument c 0)
      k path).runIn s p = (k path).runIn s p := by
  have checked : Traversal.checkArguments .invert c = .ok () := by
    simp [Traversal.checkArguments, Traversal.checkCount, Traversal.checkPresent, hargs, hvisible,
      bind, Except.bind]
  have place : argument c 0 = first := by rw [argument, hargs]; rfl
  rw [checked, place, runIn_bind, ofFlaw, runIn_pure]
  dsimp only
  rw [runIn_bind, runIn_pathArgument hpath hplain hfirst]

/-- The path and the value of a call whose second argument is a literal. -/
theorem runIn_pathValueCall {verb : Verb} (hverb : verb ≠ .invert) {second : Fragment}
    (hargs : c.args = [first, second]) {v : Value} (hv : v.RealFree) (legible : v.tokens?.isSome = true)
    (hsecond : second.chars = ' ' :: v.literal.toList) (k : Path → Value → Expansion Value) :
    (do
      ofFlaw (Traversal.checkArguments verb c)
      let path ← pathArgument call (argument c 0)
      let value ← evaluate call (argument c 1)
      k path value).runIn s p = (k path v.reread).runIn s p := by
  have visible : second.isBlank = false := by
    have literal := Value.isEmptyText_literal hv
    unfold Text.isEmptyText at literal
    rw [Fragment.isBlank, hsecond, Text.isEmptyText, List.all_cons, literal, Bool.and_false]
  have checked : Traversal.checkArguments verb c = .ok () := by
    cases verb with
    | invert => exact absurd rfl hverb
    | set | add =>
        simp [Traversal.checkArguments, Traversal.checkCount, Traversal.checkPresent, hargs, hvisible,
          visible, bind, Except.bind]
  have path : argument c 0 = first := by rw [argument, hargs]; rfl
  have value : argument c 1 = second := by rw [argument, hargs]; rfl
  have blank : ∀ c ∈ [' '], Text.isBlank c = true := List.all_eq_true.mp (by decide)
  rw [checked, path, value, runIn_bind, ofFlaw, runIn_pure]
  dsimp only
  rw [runIn_bind, runIn_pathArgument hpath hplain hfirst]
  dsimp only
  rw [runIn_bind, runIn_evaluate_literal hv blank hsecond legible]

end

end Expansion

/-! ## Commands -/

/-- Letters, digits, underscores and hyphens of ASCII are not blank. -/
theorem Text.isBlank_of_isPlain {c : Char} (h : (isPlain c || c = '-') = true) :
    isBlank c = false :=
  isBlank_of_any (P := fun c => isPlain c || c = '-') (by decide) h

namespace Path

/-- The segments are words of letters, digits, underscores and hyphens of ASCII. -/
def IsPlain (p : Path) : Prop :=
  ∀ segment ∈ p.segments, segment ≠ "" ∧ ∀ c ∈ segment.toList, (Text.isPlain c || c = '-') = true

instance (p : Path) : Decidable p.IsPlain :=
  decidable_of_iff (p.segments.all fun segment =>
    segment ≠ "" && segment.toList.all fun c => Text.isPlain c || c = '-') (by simp [IsPlain])

theorem IsPlain.isProper {p : Path} (h : p.IsPlain) : p.IsProper := by
  intro segment hsegment
  obtain ⟨some, plain⟩ := h segment hsegment
  refine ⟨?_, fun dot => absurd (plain '.' dot) (by decide)⟩
  have noBlank : segment.toList.any Text.isBlank = false := by
    rw [List.any_eq_false]
    exact fun c hc => by simp [Text.isBlank_of_isPlain (plain c hc)]
  have notEmpty : segment.toList.isEmpty = false := by
    simpa using some
  rw [isSegment, noBlank, notEmpty]
  rfl

theorem IsPlain.not_mem_activeChars {p : Path} (h : p.IsPlain) :
    ∀ c ∈ p.text.toList, c ∉ activeChars := by
  refine forall_mem_text (by decide) fun segment hsegment c hc => ?_
  exact Fiction.not_mem_activeChars (P := fun c => Text.isPlain c || c = '-') (by decide)
    ((h segment hsegment).2 c hc)

end Path

namespace Expansion

variable {s : Setting} {p : Progress}

/-- A change without a result. -/
theorem runIn_change_unit (path : Path) (f : Store → Outcome Unit × Store) :
    (change path f).runIn s p = (do return (← change path f).map fun _ => ()).runIn s p := by
  rw [runIn_bind, runIn_change]
  rcases Scope.write p.scope.locals p.world.store path f with ⟨result, locals, store⟩
  cases result with
  | ok a => rfl
  | error cause => rfl

/-- The call that a text is. -/
theorem scan_ofString {source : String} {name body : List Char} (hname : Markup.IsCallName name)
    (hsource : source.toList = '(' :: name ++ '~' :: body ++ [')'])
    (hbody : Markup.takeCall ⟨1, false, false⟩ (body ++ [')']) = some (body, [])) :
    Markup.scan (.ofString source) = .ok [.call (Markup.buildCall 0 '(' name body)] := by
  rw [Fragment.ofString, hsource]
  exact (Markup.buildCall_foundAlone 0 hname hbody).here

section

variable {path : Path} (hpath : path.IsPlain) {v : Value} (hreal : v.RealFree)
  (legible : v.tokens?.isSome = true) (room : p.depth < s.limit)

include hpath

/-- A path is inert, and so it is with blanks around it. -/
theorem inert_path (front back : List Char) (hfront : front.all (· ∉ activeChars) = true)
    (hback : back.all (· ∉ activeChars) = true) : Inert (front ++ path.text.toList ++ back) := by
  refine .of_plain ?_
  rw [List.forall_mem_append, List.forall_mem_append]
  exact ⟨⟨List.all_iff_forall_prop.mp hfront, hpath.not_mem_activeChars⟩,
    List.all_iff_forall_prop.mp hback⟩

theorem isEmptyText_path (front back : List Char) :
    Text.isEmptyText (front ++ path.text.toList ++ back) = false := by
  obtain ⟨c, cs, hcs⟩ := List.exists_cons_of_ne_nil hpath.isProper.toList_text_ne_nil
  have first := hpath.isProper.isBlank_of_mem_text c (hcs ▸ List.mem_cons_self)
  simp [Text.isEmptyText, hcs, first]

/-- The call that a verb and a path make up. -/
theorem exists_call_of_path (source : String) (name : List Char) (hname : Markup.IsCallName name)
    (hsource : source.toList = '(' :: (name ++ '~' :: ' ' :: (path.text.toList ++ [')']))) :
    ∃ c first, Markup.scan (.ofString source) = .ok [.call c] ∧ c.name = String.ofList name ∧
      c.args = [first] ∧ first.trim.chars = path.text.toList ∧ first.isBlank = false := by
  have inert := inert_path hpath [' '] [] (by decide) (by decide)
  have visible := isEmptyText_path hpath [' '] []
  have trimmed := hpath.isProper.framed.trim_surrounded [' '] [] (List.all_eq_true.mp (by decide)) nofun
  have scanned := scan_ofString hname (by rw [hsource]; simp) (Markup.takeCall_inert_closed inert)
  exact ⟨_, _, scanned, rfl, Markup.arguments_inert inert visible, trimmed, visible⟩

include hreal

/-- The call that a verb, a path and a literal make up. -/
theorem exists_call_of_path_literal (source : String) (name : List Char)
    (hname : Markup.IsCallName name)
    (hsource : source.toList = '(' :: (name ++ '~' :: ' ' :: (path.text.toList ++
      ' ' :: '~' :: ' ' :: (v.literal.toList ++ [')'])))) :
    ∃ c first second, Markup.scan (.ofString source) = .ok [.call c] ∧ c.name = String.ofList name ∧
      c.args = [first, second] ∧ first.trim.chars = path.text.toList ∧ first.isBlank = false ∧
      second.chars = ' ' :: v.literal.toList := by
  have inert := inert_path hpath [' '] [' '] (by decide) (by decide)
  have literal : Inert (' ' :: v.literal.toList) := .plain (by decide) (Value.inert_literal hreal)
  have visible := isEmptyText_path hpath [' '] [' ']
  have trimmed := hpath.isProper.framed.trim_surrounded [' '] [' '] (List.all_eq_true.mp (by decide))
    (List.all_eq_true.mp (by decide))
  have scanned := scan_ofString hname (by rw [hsource]; simp)
    (Markup.takeCall_inert_pair_closed inert literal)
  exact ⟨_, _, _, scanned, rfl, Markup.arguments_inert_pair inert literal visible, trimmed, visible,
    rfl⟩

end

/-- **A command means the same as a literal and as a call.** Both succeed, or fail for the same cause,
and leave the same variables, wherever a call can still be made. -/
theorem runCommand_literal_eq_call {path : Path} (hpath : path.IsPlain) {v : Value}
    (hreal : v.RealFree) (hkeys : v.Keyed) (legible : v.Legible) {s : Setting} {p : Progress}
    (room : p.depth < s.limit) :
    SameEffect (runCommand (.literal .set path (some v)))
        (runCommand (.call .set ("(set~ " ++ path.text ++ " ~ " ++ v.literal ++ ")"))) s p ∧
      SameEffect (runCommand (.literal .add path (some v)))
        (runCommand (.call .add ("(add~ " ++ path.text ++ " ~ " ++ v.literal ++ ")"))) s p ∧
      SameEffect (runCommand (.literal .invert path none))
        (runCommand (.call .invert ("(invert~ " ++ path.text ++ ")"))) s p := by
  have proper := hpath.isProper
  have plain := hpath.not_mem_activeChars
  -- a legible literal has tokens and is read as the value it was written for
  have readable : v.tokens?.isSome = true :=
    (Value.isSome_tokens?_iff hreal).mpr fun part hpart => (legible part hpart).1
  have same : v.reread = v :=
    (Value.reread_eq_self_iff hkeys).mpr fun part hpart => (legible part hpart).2
  refine ⟨?_, ?_, ?_⟩
  · obtain ⟨c, first, second, hscan, hname, hargs, hfirst, hvisible, hsecond⟩ :=
      exists_call_of_path_literal hpath hreal ("(set~ " ++ path.text ++ " ~ " ++ v.literal ++ ")")
        ['s', 'e', 't'] (by decide) (by simp)
    have literal (p : Progress) :
        (literalCommand (.literal .set path (some v)) .set path (some v)).runIn s p =
          (do return (← change path (·.set path v)).map fun _ => ()).runIn s p := by
      rw [literalCommand, write, ← runIn_change_unit]
    refine sameEffect_of_change (argument c 0).span literal hscan (fun call p => ?_) room
    rw [runIn_dispatch_standard (b := .set) (by decide) hname, builtin, setCall,
      runIn_pathValueCall proper plain hfirst hvisible (by decide) hargs hreal readable hsecond, same]
    rfl
  · obtain ⟨c, first, second, hscan, hname, hargs, hfirst, hvisible, hsecond⟩ :=
      exists_call_of_path_literal hpath hreal ("(add~ " ++ path.text ++ " ~ " ++ v.literal ++ ")")
        ['a', 'd', 'd'] (by decide) (by simp)
    refine sameEffect_of_change (argument c 0).span (fun p => rfl) hscan (fun call p => ?_) room
    rw [runIn_dispatch_standard (b := .add) (by decide) hname, builtin, addCall,
      runIn_pathValueCall proper plain hfirst hvisible (by decide) hargs hreal readable hsecond, same]
    rfl
  · obtain ⟨c, first, hscan, hname, hargs, hfirst, hvisible⟩ :=
      exists_call_of_path hpath ("(invert~ " ++ path.text ++ ")") ['i', 'n', 'v', 'e', 'r', 't']
        (by decide) (by simp)
    refine sameEffect_of_change (argument c 0).span (fun p => rfl) hscan (fun call p => ?_) room
    rw [runIn_dispatch_standard (b := .invert) (by decide) hname, builtin, invertCall,
      runIn_pathCall proper plain hfirst hvisible hargs]
    rfl

/-- A value whose text looks like a call, written into a mapping that has to be made. -/
theorem runCommand_set_quoted_call :
    let path : Path := ⟨"mood", ["to-day"]⟩
    let v := Value.list [.text "a ~ (b~ \"c\")", .int (-1)]
    let s : Setting := { (default : Setting) with limit := 1 }
    path.IsPlain ∧ v.RealFree ∧ v.Keyed ∧ v.Legible ∧
      SameEffect (runCommand (.literal .set path (some v)))
        (runCommand (.call .set "(set~ mood.to-day ~ [\"a ~ (b~ \\\"c\\\")\", -1])")) s default := by
  intro path v s
  have hpath : path.IsPlain := by decide
  have hreal : v.RealFree := by decide
  have hkeys : v.Keyed := by decide
  have legible : v.Legible := by decide
  have text : "(set~ mood.to-day ~ [\"a ~ (b~ \\\"c\\\")\", -1])" =
      "(set~ " ++ path.text ++ " ~ " ++ v.literal ++ ")" := by decide +kernel
  rw [text]
  exact ⟨hpath, hreal, hkeys, legible,
    (runCommand_literal_eq_call hpath hreal hkeys legible (by decide)).1⟩

end Expansion

end Fiction
