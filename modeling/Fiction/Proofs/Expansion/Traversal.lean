import Fiction.Proofs.Expansion.Commands
import Fiction.Proofs.Store.Updates

/-!
# Fiction.Proofs.Expansion.Traversal

**The commands of a link run as they were checked.** A link is checked when the text that it stands in is
expanded. What is kept of it is the text of its calls, and each of these is scanned again when the link is
followed. The second scan finds the call that was checked, and nothing else.

* `Traversal.ofSegments_accepts` says what the check has seen: nothing but blanks and calls with the arguments
  that their verbs take.
* `Markup.foundAlone_of_mem`: a call that was found in a text is found again in its own text.
* `ArgumentFails` is a fault that an argument of such a call has. What is left of its own are changes that
  cannot be made, and these are `Outcome.InShape`.
* `checked_commands_run` is the main statement. What it says of a command is `RunsAs`.
-/

namespace Fiction

/-! ## What was checked -/

/-- How many arguments a verb takes. -/
def Verb.arity : Verb → Nat
  | .invert => 1
  | .set | .add => 2

/-- The call that a segment is. -/
def Segment.call? : Segment → Option Call
  | .call c => some c
  | .text _ | .link _ => none

/-- Text that says nothing. -/
def Segment.isBlank : Segment → Bool
  | .text f => f.isBlank
  | .call _ | .link _ => false

theorem Verb.name_of_ofName? {name : String} {verb : Verb} (h : ofName? name = some verb) :
    verb.name = name := by
  unfold ofName? at h
  split at h
  all_goals cases h
  all_goals rfl

namespace Traversal

/-- A call passes the check if it has the right number of arguments and something in each of them. -/
theorem checkArguments_eq_ok_iff {verb : Verb} {c : Call} :
    checkArguments verb c = .ok () ↔
      c.args.length = verb.arity ∧ ∀ arg ∈ c.args, arg.isBlank = false := by
  obtain ⟨name, args, source⟩ := c
  cases verb with
  | invert =>
      rcases args with _ | ⟨path, _ | ⟨value, rest⟩⟩
      all_goals simp [checkArguments, checkCount, checkPresent, Verb.arity, bind, Except.bind]
  | set | add =>
      rcases args with _ | ⟨path, _ | ⟨value, _ | ⟨other, rest⟩⟩⟩
      case cons.cons.nil =>
        -- the value is checked first, but both have to be there
        cases hvalue : value.isBlank with
        | true => simp [checkArguments, checkCount, checkPresent, bind, Except.bind, hvalue]
        | false =>
            simp [checkArguments, checkCount, checkPresent, Verb.arity, bind, Except.bind, hvalue]
      all_goals simp [checkArguments, checkCount, Verb.arity, bind, Except.bind]

/-- What the check has seen of a command. -/
structure Accepts (verb : Verb) (c : Call) : Prop where
  name : c.name = verb.name
  checked : checkArguments verb c = .ok ()

/-- The commands are the calls among the segments, and all else is blank. -/
theorem ofSegments_accepts {segments : List Segment} {commands : List Command}
    (h : ofSegments segments = .ok commands) :
    (∀ segment ∈ segments, segment.call? = none → segment.isBlank = true) ∧
      List.Forall₂ (fun c command => ∃ verb, command = .call verb c.source.text ∧ Accepts verb c)
        (segments.filterMap Segment.call?) commands := by
  induction segments generalizing commands with
  | nil =>
      cases h
      exact ⟨List.forall_mem_nil _, .nil⟩
  | cons segment rest ih =>
      rw [List.forall_mem_cons]
      cases segment with
      | text f =>
          rw [ofSegments] at h
          split at h
          · next blank =>
              obtain ⟨blanks, accepted⟩ := ih h
              exact ⟨⟨fun _ => blank, blanks⟩, accepted⟩
          · cases h
      | link l => cases h
      | call c =>
          rw [ofSegments] at h
          split at h
          · cases h
          · next verb found =>
              obtain ⟨⟨⟩, checked, h⟩ := Outcome.bind_eq_ok.mp h
              obtain ⟨commands, later, h⟩ := Outcome.bind_eq_ok.mp h
              cases h
              obtain ⟨blanks, accepted⟩ := ih later
              refine ⟨⟨fun other => (by cases other), blanks⟩, .cons ⟨verb, rfl, ?_, checked⟩ accepted⟩
              exact (Verb.name_of_ofName? found).symm

end Traversal

/-! ## The second scan -/

/-- A call that was found in a text is found again in its own text. -/
theorem Markup.foundAlone_of_mem {f : Fragment} {segments : List Segment}
    (h : scan f = .ok segments) {c : Call} (hc : Segment.call c ∈ segments) :
    FoundAlone (.call c) c.source := by
  have cut : Cut false f.offset f.chars segments := scanFrom_cut h
  generalize f.offset = offset, f.chars = cs, false = escaped at cut
  clear h
  induction cut with
  | nil => cases hc
  | text _ _ _ _ ih =>
      rcases List.mem_cons.mp hc with text | later
      · cases text
      · exact ih later
  | other _ _ written alone _ ih =>
      rcases List.mem_cons.mp hc with rfl | later
      · exact written.source ▸ alone
      · exact ih later

/-- A call at the beginning of a text of its own. -/
def Call.alone (c : Call) : Call :=
  ⟨c.name, c.args.map (·.move c.source.offset 0), c.source.move c.source.offset 0⟩

namespace Call

theorem text_args_alone (c : Call) : c.alone.args.map Fragment.text = c.args.map Fragment.text := by
  rw [alone, List.map_map]
  rfl

/-- The check does not depend on where the call stands. -/
theorem checkArguments_alone {verb : Verb} {c : Call}
    (h : Traversal.checkArguments verb c = .ok ()) : Traversal.checkArguments verb c.alone = .ok () := by
  rw [Traversal.checkArguments_eq_ok_iff] at h ⊢
  refine ⟨(List.length_map ..).trans h.1, fun arg harg => ?_⟩
  obtain ⟨original, horiginal, rfl⟩ := List.mem_map.mp harg
  exact h.2 original horiginal

end Call

theorem Markup.FoundAlone.scan_ofString {c : Call} (h : FoundAlone (.call c) c.source) :
    scan (.ofString c.source.text) = .ok [.call c.alone] := by
  have text : Fragment.ofString c.source.text = ⟨0, c.source.chars⟩ := by
    rw [Fragment.ofString, Fragment.text, String.toList_ofList]
  rw [text]
  exact h.anywhere 0

/-! ## Changes that cannot be made -/

/-- The causes of calls that are not in shape: a call or a quoted text does not end, or the arguments are not
those that the call takes. -/
def Cause.isMisshapen : Cause → Bool
  | .unterminatedCall _ | .unterminatedText | .malformedCall _ _ => true
  | _ => false

/-- The operation does not fail as a call does that is not in shape. -/
def Outcome.InShape {α : Type} (x : Outcome α) : Prop :=
  ∀ cause, x = .error cause → cause.isMisshapen = false

namespace Outcome.InShape

theorem ok {α : Type} (a : α) : InShape (.ok a) := by
  intro cause h
  cases h

theorem error {α : Type} {cause : Cause} (h : cause.isMisshapen = false) :
    InShape (.error cause : Outcome α) := by
  intro other same
  cases same
  exact h

theorem bind {α β : Type} {x : Outcome α} {f : α → Outcome β} (hx : InShape x)
    (hf : ∀ a, InShape (f a)) : InShape (x >>= f) := by
  cases x with
  | ok a => exact hf a
  | error cause => exact error (hx cause rfl)

end Outcome.InShape

open Outcome (InShape)

theorem Path.inShape_parse (text : String) : InShape (Path.parse text) := by
  unfold Path.parse
  dsimp only
  split
  · split
    · exact .ok _
    · exact .error rfl
  · exact .error rfl

theorem Value.inShape_descend (path : Path) (depth : Nat) (segments : List String) (v : Value) :
    InShape (v.descend path depth segments) := by
  induction segments generalizing v depth with
  | nil => exact .ok v
  | cons segment rest ih =>
      cases v with
      | mapping m =>
          rw [descend]
          split
          · exact ih (depth + 1) _
          · exact .error rfl
      | null | bool b | int n | real x | text s | list items => exact .error rfl

theorem Operator.inShape_plus (a b : Value) : InShape (Operator.plus.apply a b) := by
  have fitted (result : Option Int64) : InShape (fitted "+" result) := by
    cases result with
    | none => exact .error rfl
    | some n => exact .ok _
  have onReals (a b : Value) : InShape (onReals "+" a b fun x y => .ok (.real (x + y))) := by
    unfold Operator.onReals
    split
    · exact .ok _
    · exact .error rfl
  rw [apply]
  unfold Operator.add
  split
  all_goals first
    | exact fitted _
    | exact .ok _
    | exact onReals _ _

namespace Store

theorem inShape_get (s : Store) (p : Path) : InShape (s.get p) := by
  unfold get
  split
  · exact Value.inShape_descend p 1 p.tail _
  · exact .error rfl

theorem inShape_set (s : Store) (p : Path) (v : Value) : InShape (s.set p v).1 :=
  fun cause h => s.inShape_get p cause (set_eq_error_iff.mp h).1

theorem inShape_add (s : Store) (p : Path) (v : Value) : InShape (s.add p v).1 := by
  rw [add, update_fst]
  exact (s.inShape_get p).bind fun old => Operator.inShape_plus old v

theorem inShape_invert (s : Store) (p : Path) : InShape (s.invert p).1 := by
  rw [invert, update_fst]
  refine (s.inShape_get p).bind fun old => ?_
  unfold inverse
  split
  · exact .ok _
  · split
    · exact .ok _
    · exact .error rfl
  · exact .ok _
  · exact .error rfl

end Store

theorem Scope.inShape_write {α : Type} {f : Store → Outcome α × Store}
    (hf : ∀ s, InShape (f s).1) (locals globals : Store) (path : Path) :
    InShape (Scope.write locals globals path f).1 := by
  unfold Scope.write
  split
  · exact .error rfl
  · split
    · exact hf locals
    · exact hf globals

namespace Expansion

variable {call : Caller} {s : Setting} {p : Progress} {c : Call} {fault : Fault}

/-! ## Faults of the arguments -/

/-- A fault of an argument: the path cannot be expanded, or the value behind it cannot be computed. -/
inductive ArgumentFails (call : Caller) (s : Setting) (c : Call) (p : Progress) (fault : Fault) : Prop
  | path {q : Progress} : (markup call (argument c 0).trim).runIn s p = (.error fault, q) →
      ArgumentFails call s c p fault
  | value {path : Path} {q r : Progress} : 1 < c.args.length →
      (pathArgument call (argument c 0)).runIn s p = (.ok path, q) →
      (evaluate call (argument c 1)).runIn s q = (.error fault, r) → ArgumentFails call s c p fault

/-- A call that reads a path fails there or behind it. -/
theorem argumentFails_or_behind {k : Path → Expansion Value} (misshapen : fault.cause.isMisshapen = true)
    (h : ((do let path ← pathArgument call (argument c 0); k path).runIn s p).1 = .error fault) :
    ArgumentFails call s c p fault ∨ ∃ path q,
      (pathArgument call (argument c 0)).runIn s p = (.ok path, q) ∧
        ((k path).runIn s q).1 = .error fault := by
  rw [runIn_bind] at h
  rcases run : (pathArgument call (argument c 0)).runIn s p with ⟨r, q⟩
  rw [run] at h
  cases r with
  | ok path => exact .inr ⟨path, q, rfl, h⟩
  | error other =>
      cases h
      unfold pathArgument at run
      rw [runIn_bind] at run
      rcases expanded : (markup call (argument c 0).trim).runIn s p with ⟨r, q⟩
      rw [expanded] at run
      cases r with
      | error other =>
          cases run
          exact .inl (.path expanded)
      | ok text =>
          dsimp only at run
          cases parsed : Path.parse text with
          | ok path =>
              rw [parsed] at run
              cases run
          | error cause =>
              rw [parsed] at run
              cases run
              exact absurd misshapen (by simp [Path.inShape_parse text cause parsed])

/-- A change that cannot be made. -/
theorem inShape_of_change {α : Type} {path : Path} {f : Store → Outcome α × Store}
    (hf : ∀ store, InShape (f store).1) {span : Span}
    (h : ((do let _ ← ofOutcome span (← change path f); return .null :
      Expansion Value).runIn s p).1 = .error fault) : fault.cause.isMisshapen = false := by
  have inShape := Scope.inShape_write hf p.scope.locals p.world.store path
  rw [runIn_bind, runIn_change] at h
  cases written : (Scope.write p.scope.locals p.world.store path f).1 with
  | ok a =>
      rw [written] at h
      cases h
  | error cause =>
      rw [written] at h
      cases h
      exact inShape cause written

/-- **Of a checked call, only an argument is not in shape.** -/
theorem argumentFails_of_dispatch {verb : Verb} (accepted : Traversal.Accepts verb c)
    (misshapen : fault.cause.isMisshapen = true)
    (h : ((dispatch call c).runIn s p).1 = .error fault) : ArgumentFails call s c p fault := by
  obtain ⟨hname, checked⟩ := accepted
  -- behind the path there is a value, unless the verb inverts
  have withValue {path : Path} {q : Progress} {k : Value → Expansion Value}
      (number : 1 < c.args.length)
      (run : (pathArgument call (argument c 0)).runIn s p = (.ok path, q))
      (hk : ∀ v r, ((k v).runIn s r).1 = .error fault → fault.cause.isMisshapen = false)
      (h : ((do let v ← evaluate call (argument c 1); k v).runIn s q).1 = .error fault) :
      ArgumentFails call s c p fault := by
    rw [runIn_bind] at h
    rcases evaluated : (evaluate call (argument c 1)).runIn s q with ⟨r, q'⟩
    rw [evaluated] at h
    cases r with
    | ok v => exact absurd misshapen (by simp [hk v q' h])
    | error other =>
        cases h
        exact .value number run evaluated
  have number : c.args.length = verb.arity := (Traversal.checkArguments_eq_ok_iff.mp checked).1
  cases verb with
  | set =>
      rw [runIn_dispatch_standard (b := .set) (by decide) hname, builtin, setCall, checked, runIn_bind,
        ofFlaw, runIn_pure] at h
      rcases argumentFails_or_behind misshapen h with first | ⟨path, q, run, behind⟩
      · exact first
      · exact withValue (by simp [number, Verb.arity]) run
          (fun v r => inShape_of_change fun store => store.inShape_set path v) behind
  | add =>
      rw [runIn_dispatch_standard (b := .add) (by decide) hname, builtin, addCall, checked, runIn_bind,
        ofFlaw, runIn_pure] at h
      rcases argumentFails_or_behind misshapen h with first | ⟨path, q, run, behind⟩
      · exact first
      · exact withValue (by simp [number, Verb.arity]) run
          (fun v r => inShape_of_change fun store => store.inShape_add path v) behind
  | invert =>
      rw [runIn_dispatch_standard (b := .invert) (by decide) hname, builtin, invertCall, checked,
        runIn_bind, ofFlaw, runIn_pure] at h
      rcases argumentFails_or_behind misshapen h with first | ⟨path, q, -, behind⟩
      · exact first
      · exact absurd misshapen
          (by simp [inShape_of_change (fun store => store.inShape_invert path) behind])

/-! ## Running a command -/

/-- A command that makes the call it was checked as. -/
structure RunsAs (verb : Verb) (c : Call) : Prop where
  /-- The call passed the check. -/
  accepted : Traversal.Accepts verb c
  /-- The second scan finds one call, which has the same name and the same arguments. -/
  found : Markup.scan (.ofString c.source.text) = .ok [.call c.alone]
  name : c.alone.name = verb.name
  args : c.alone.args.map Fragment.text = c.args.map Fragment.text
  /-- Whatever calls do, this one is made and nothing else. -/
  once : ∀ (call : Caller) (s : Setting) (p : Progress),
    (markup call (.ofString c.source.text)).runIn s p =
      (((call c.alone).runIn s p).1.map Value.display, ((call c.alone).runIn s p).2)
  /-- The command is what the verb does, wherever a call can still be made. -/
  dispatched : ∀ (s : Setting) (p : Progress), p.depth < s.limit →
    (runCommand (.call verb c.source.text)).runIn s p =
      let inner := (dispatch (callWith (s.limit - p.depth - 1)) c.alone).runIn s
        (p.enterCommand c.source.text).deeper
      ((inner.1.mapError (·.inCall verb.name)).map fun _ => (), inner.2.shallower.leaveCommand p)
  /-- If something is not in shape, it is an argument. -/
  inShape : ∀ (s : Setting) (p : Progress) (fault : Fault), p.depth < s.limit →
    ((runCommand (.call verb c.source.text)).runIn s p).1 = .error fault →
    fault.cause.isMisshapen = true → ∃ inner, fault = inner.inCall verb.name ∧
      ArgumentFails (callWith (s.limit - p.depth - 1)) s c.alone
        (p.enterCommand c.source.text).deeper inner

theorem runIn_runCommand_call {verb : Verb} {source : String}
    (hscan : Markup.scan (.ofString source) = .ok [.call c]) (hname : c.name = verb.name)
    (room : p.depth < s.limit) :
    (runCommand (.call verb source)).runIn s p =
      let inner := (dispatch (callWith (s.limit - p.depth - 1)) c).runIn s (p.enterCommand source).deeper
      ((inner.1.mapError (·.inCall verb.name)).map fun _ => (), inner.2.shallower.leaveCommand p) := by
  have levels : s.limit - (p.enterCommand source).depth = s.limit - p.depth - 1 + 1 :=
    show s.limit - p.depth = _ by omega
  unfold runCommand markupTop
  rw [runIn_borrowing, runIn_bind, runIn_room, levels, runIn_markup_of_call hscan, callWith,
    runIn_mapFault, runIn_borrowing, hname]
  dsimp only
  rcases (dispatch (callWith (s.limit - p.depth - 1)) c).runIn s (p.enterCommand source).deeper
    with ⟨r, q⟩
  cases r with
  | ok v => rfl
  | error fault => rfl

theorem runsAs_of_accepts {verb : Verb} (accepted : Traversal.Accepts verb c)
    (alone : Markup.FoundAlone (.call c) c.source) : RunsAs verb c := by
  have found := alone.scan_ofString
  have again : Traversal.Accepts verb c.alone := ⟨accepted.name, Call.checkArguments_alone accepted.checked⟩
  have run (s : Setting) (p : Progress) (room : p.depth < s.limit) :=
    runIn_runCommand_call (s := s) found again.name room
  refine ⟨accepted, found, again.name, c.text_args_alone, fun call s p => ?_, run,
    fun s p fault room failed misshapen => ?_⟩
  · rw [runIn_markup_of_call found]
    simp only [String.append_empty]
  · rw [run s p room] at failed
    dsimp only at failed
    cases inner : ((dispatch (callWith (s.limit - p.depth - 1)) c.alone).runIn s
        (p.enterCommand c.source.text).deeper).1 with
    | ok v =>
        rw [inner] at failed
        cases failed
    | error fault =>
        rw [inner] at failed
        cases failed
        exact ⟨fault, rfl, argumentFails_of_dispatch again misshapen inner⟩

/-- **The commands of a link run as they were checked.** They are the calls of the text in their order, and
all else is blank. Each of them makes one call when it is run, which has the name and the arguments that were
checked; so if something is found not to be in shape then, it is in an argument. -/
theorem checked_commands_run {f : Fragment} {commands : List Command}
    (h : Traversal.commands f = .ok commands) :
    ∃ segments, Markup.scan f = .ok segments ∧
      (∀ segment ∈ segments, segment.call? = none → segment.isBlank = true) ∧
      List.Forall₂ (fun c command => ∃ verb, command = .call verb c.source.text ∧ RunsAs verb c)
        (segments.filterMap Segment.call?) commands := by
  obtain ⟨segments, scanned, accepted⟩ := Outcome.bind_eq_ok.mp h
  obtain ⟨blanks, accepted⟩ := Traversal.ofSegments_accepts accepted
  have alone : ∀ c ∈ segments.filterMap Segment.call?, Markup.FoundAlone (.call c) c.source := by
    intro c hc
    obtain ⟨segment, hsegment, same⟩ := List.mem_filterMap.mp hc
    cases segment with
    | text f => cases same
    | link l => cases same
    | call d =>
        cases same
        exact Markup.foundAlone_of_mem scanned hsegment
  refine ⟨segments, scanned, blanks, ((List.forall₂_and_left _ _).mpr ⟨alone, accepted⟩).imp ?_⟩
  rintro c command ⟨hc, verb, rfl, accepted⟩
  exact ⟨verb, rfl, runsAs_of_accepts accepted hc⟩

/-- Commands in the middle of a text, with a parenthesis and a tilde in quotes and a call in an argument. -/
def doorTraversal : Fragment :=
  ⟨12, "(set~ door ~ \"a ) ~ b\") (add~ (lookup~ purse) ~ 1)".toList⟩

theorem door_commands_run :
    let commands : List Command :=
      [.call .set "(set~ door ~ \"a ) ~ b\")", .call .add "(add~ (lookup~ purse) ~ 1)"]
    Traversal.commands doorTraversal = .ok commands ∧
      ∃ segments, Markup.scan doorTraversal = .ok segments ∧
        (∀ segment ∈ segments, segment.call? = none → segment.isBlank = true) ∧
        List.Forall₂ (fun c command => ∃ verb, command = .call verb c.source.text ∧ RunsAs verb c)
          (segments.filterMap Segment.call?) commands := by
  intro commands
  have scanned : Markup.scan doorTraversal = .ok
      [.call ⟨"set", [⟨17, " door ".toList⟩, ⟨24, " \"a ) ~ b\"".toList⟩],
          ⟨12, "(set~ door ~ \"a ) ~ b\")".toList⟩⟩,
        .text ⟨35, [' ']⟩,
        .call ⟨"add", [⟨41, " (lookup~ purse) ".toList⟩, ⟨59, " 1".toList⟩],
          ⟨36, "(add~ (lookup~ purse) ~ 1)".toList⟩⟩] := by
    decide +kernel
  have accepted : Traversal.commands doorTraversal = .ok commands := by
    rw [Traversal.commands, scanned]
    rfl
  exact ⟨accepted, checked_commands_run accepted⟩

end Expansion

end Fiction
