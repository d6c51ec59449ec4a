import Fiction.Proofs.Expansion.Commands

/-!
# Fiction.Proofs.Expansion.Branches

**`if` is lazy and takes the first branch that holds.** Its conditions are evaluated from left to right,
with all that they change, until one holds or fails. Then one result is expanded at most; what the others
say does not matter, and neither do the conditions behind.

* `Arm.pairs` are the arguments of `if`, each condition with its result.
* `Passed` is a run of conditions that do not hold. It knows nothing of the results.
* `Choice.Made` says which branch is taken and what comes out, and `Choice.Agree` which arguments the choice
  depends on.
* `runIn_branches` computes a run from the choice, `exists_made` says that there always is one, and
  `Choice.Made.congr` that arguments which agree lead to the same.
-/

namespace Fiction.Expansion

/-- A condition of `if` and the result that goes with it. -/
structure Arm where
  /-- When the result is taken. -/
  condition : Fragment
  /-- What is expanded then. -/
  result : Fragment
deriving DecidableEq

namespace Arm

/-- The result is for when no condition holds. -/
def isElse (arm : Arm) : Bool :=
  Expansion.isElse arm.condition

/-- Arguments in pairs. -/
def pairs : List Fragment → List Arm
  | condition :: result :: rest => ⟨condition, result⟩ :: pairs rest
  | _ => []

/-- Pairs as arguments. -/
def arguments (arms : List Arm) : List Fragment :=
  arms.flatMap fun arm => [arm.condition, arm.result]

/-- The result behind the first `else`. -/
def fallback? (arms : List Arm) : Option Fragment :=
  (arms.find? isElse).map result

end Arm

variable {call : Caller} {s : Setting}

/-! ## Conditions that do not hold -/

/-- The conditions are evaluated one after the other, `else` left out, and none of them holds. -/
inductive Passed (call : Caller) (s : Setting) : List Fragment → Progress → Progress → Prop
  | nil {p : Progress} : Passed call s [] p p
  | skip {condition : Fragment} {rest : List Fragment} {p q : Progress} : isElse condition = true →
      Passed call s rest p q → Passed call s (condition :: rest) p q
  | pass {condition : Fragment} {rest : List Fragment} {p q r : Progress} {v : Value} :
      isElse condition = false → (evaluate call condition).runIn s p = (.ok v, q) →
      v.isTruthy = false → Passed call s rest q r → Passed call s (condition :: rest) p r

/-- Which branch is taken. -/
inductive Choice where
  /-- The first condition that holds, by its number. -/
  | holds (number : Nat)
  /-- A condition that fails, by its number, ends the search. -/
  | fails (number : Nat)
  /-- No condition holds. -/
  | otherwise
deriving DecidableEq

/-- A choice among arms, and what comes of it: the result of the condition that holds is expanded where
that condition left off; a condition that fails is all there is; and if none holds, it is the result
behind the first `else`, or null. -/
inductive Choice.Made (call : Caller) (s : Setting) (arms : List Arm) (p : Progress) :
    Choice → Except Fault Value × Progress → Prop
  | holds {number : Nat} {arm : Arm} {v : Value} {q r : Progress} :
      Passed call s ((arms.take number).map Arm.condition) p q → arms[number]? = some arm →
      arm.isElse = false → (evaluate call arm.condition).runIn s q = (.ok v, r) → v.isTruthy = true →
      Made call s arms p (.holds number) ((body call arm.result).runIn s r)
  | fails {number : Nat} {arm : Arm} {fault : Fault} {q r : Progress} :
      Passed call s ((arms.take number).map Arm.condition) p q → arms[number]? = some arm →
      arm.isElse = false → (evaluate call arm.condition).runIn s q = (.error fault, r) →
      Made call s arms p (.fails number) (.error fault, r)
  | fallback {result : Fragment} {q : Progress} : Passed call s (arms.map Arm.condition) p q →
      Arm.fallback? arms = some result →
      Made call s arms p .otherwise ((body call result).runIn s q)
  | nothing {q : Progress} : Passed call s (arms.map Arm.condition) p q → Arm.fallback? arms = none →
      Made call s arms p .otherwise (.ok .null, q)

/-- Arms that agree on all that a choice depends on: the conditions up to the one that decides, and the
result that is taken. -/
def Choice.Agree (arms arms' : List Arm) : Choice → Prop
  | .holds number =>
      (arms'.take number).map Arm.condition = (arms.take number).map Arm.condition ∧
        arms'[number]? = arms[number]?
  | .fails number =>
      (arms'.take number).map Arm.condition = (arms.take number).map Arm.condition ∧
        arms'[number]?.map Arm.condition = arms[number]?.map Arm.condition
  | .otherwise =>
      arms'.map Arm.condition = arms.map Arm.condition ∧ Arm.fallback? arms' = Arm.fallback? arms

/-! ## The search -/

theorem runIn_branches_cons (fallback : Option Fragment) (arm : Arm) (arms : List Arm) (p : Progress) :
    (branches call fallback (Arm.arguments (arm :: arms))).runIn s p =
      (do
        if arm.isElse then branches call (fallback.or (some arm.result)) (Arm.arguments arms)
        else if (← evaluate call arm.condition).isTruthy then body call arm.result
        else branches call fallback (Arm.arguments arms)).runIn s p :=
  rfl

theorem fallback?_cons (arm : Arm) (arms : List Arm) :
    Arm.fallback? (arm :: arms) = if arm.isElse then some arm.result else Arm.fallback? arms := by
  unfold Arm.fallback?
  cases h : arm.isElse with
  | true => simp [h]
  | false => simp [h]

/-- What was passed leaves only its first `else` behind. -/
theorem runIn_branches_passed (fallback : Option Fragment) {front : List Arm} (rest : List Arm)
    {p q : Progress} (h : Passed call s (front.map Arm.condition) p q) :
    (branches call fallback (Arm.arguments (front ++ rest))).runIn s p =
      (branches call (fallback.or (Arm.fallback? front)) (Arm.arguments rest)).runIn s q := by
  induction front generalizing fallback p with
  | nil =>
      cases h
      rw [Arm.fallback?, List.find?_nil, Option.map_none, Option.or_none, List.nil_append]
  | cons arm front ih =>
      rw [List.cons_append, runIn_branches_cons, fallback?_cons]
      cases h with
      | skip other tail =>
          have other : arm.isElse = true := other
          rw [other, if_pos rfl, if_pos rfl, ih _ tail, Option.or_assoc, Option.some_or]
      | pass other ran low tail =>
          have other : arm.isElse = false := other
          rw [other, if_neg Bool.false_ne_true, if_neg Bool.false_ne_true, runIn_bind, ran]
          dsimp only
          rw [low, if_neg Bool.false_ne_true, ih _ tail]

/-- The condition that decides, behind those that do not hold. -/
theorem runIn_branches_deciding {arms : List Arm} {number : Nat} {arm : Arm} {p q : Progress}
    (passed : Passed call s ((arms.take number).map Arm.condition) p q)
    (found : arms[number]? = some arm) (condition : arm.isElse = false) :
    ∃ fallback rest, (branches call none (Arm.arguments arms)).runIn s p =
      (do
        if (← evaluate call arm.condition).isTruthy then body call arm.result
        else branches call fallback rest).runIn s q := by
  obtain ⟨inside, here⟩ := List.getElem?_eq_some_iff.mp found
  have cut : arms = arms.take number ++ arm :: arms.drop (number + 1) := by
    rw [← here, ← List.drop_eq_getElem_cons, List.take_append_drop]
  refine ⟨Option.none.or (Arm.fallback? (arms.take number)), Arm.arguments (arms.drop (number + 1)), ?_⟩
  conv_lhs => rw [cut]
  rw [runIn_branches_passed _ _ passed, runIn_branches_cons, condition, if_neg Bool.false_ne_true]

/-- Where no condition holds, the result behind the first `else` is left, or nothing. -/
theorem runIn_branches_all {arms : List Arm} {p q : Progress}
    (passed : Passed call s (arms.map Arm.condition) p q) :
    (branches call none (Arm.arguments arms)).runIn s p =
      (branches call (Arm.fallback? arms) []).runIn s q := by
  have whole := runIn_branches_passed none [] passed
  rwa [List.append_nil, Option.none_or] at whole

/-- **A run is computed from the choice.** -/
theorem runIn_branches {arms : List Arm} {p : Progress} {choice : Choice}
    {outcome : Except Fault Value × Progress} (h : choice.Made call s arms p outcome) :
    (branches call none (Arm.arguments arms)).runIn s p = outcome := by
  cases h with
  | holds passed found condition ran high =>
      obtain ⟨fallback, rest, run⟩ := runIn_branches_deciding passed found condition
      rw [run, runIn_bind, ran]
      dsimp only
      rw [high, if_pos rfl]
  | fails passed found condition ran =>
      obtain ⟨fallback, rest, run⟩ := runIn_branches_deciding passed found condition
      rw [run, runIn_bind, ran]
  | fallback passed found =>
      rw [runIn_branches_all passed, found]
      rfl
  | nothing passed found =>
      rw [runIn_branches_all passed, found]
      rfl

/-- The search goes through all conditions, or ends at one that holds or fails. -/
theorem passed_or_decided (call : Caller) (s : Setting) (arms : List Arm) (p : Progress) :
    (∃ q, Passed call s (arms.map Arm.condition) p q) ∨
      ∃ number arm q, Passed call s ((arms.take number).map Arm.condition) p q ∧
        arms[number]? = some arm ∧ arm.isElse = false ∧
        ((∃ v r, (evaluate call arm.condition).runIn s q = (.ok v, r) ∧ v.isTruthy = true) ∨
          ∃ fault r, (evaluate call arm.condition).runIn s q = (.error fault, r)) := by
  induction arms generalizing p with
  | nil => exact .inl ⟨p, .nil⟩
  | cons arm arms ih =>
      cases condition : arm.isElse with
      | true =>
          rcases ih p with ⟨q, passed⟩ | ⟨number, decided, q, passed, found, rest⟩
          · exact .inl ⟨q, .skip condition passed⟩
          · exact .inr ⟨number + 1, decided, q, .skip condition passed, found, rest⟩
      | false =>
          rcases ran : (evaluate call arm.condition).runIn s p with ⟨result, r⟩
          cases result with
          | error fault => exact .inr ⟨0, arm, p, .nil, rfl, condition, .inr ⟨fault, r, ran⟩⟩
          | ok v =>
              cases truth : v.isTruthy with
              | true => exact .inr ⟨0, arm, p, .nil, rfl, condition, .inl ⟨v, r, ran, truth⟩⟩
              | false =>
                  -- a condition that does not hold hands over what it changed
                  rcases ih r with ⟨q, passed⟩ | ⟨number, decided, q, passed, found, rest⟩
                  · exact .inl ⟨q, .pass condition ran truth passed⟩
                  · exact .inr ⟨number + 1, decided, q, .pass condition ran truth passed, found, rest⟩

/-- **There is always a choice.** -/
theorem exists_made (call : Caller) (s : Setting) (arms : List Arm) (p : Progress) :
    ∃ (choice : Choice) (outcome : Except Fault Value × Progress), choice.Made call s arms p outcome := by
  rcases passed_or_decided call s arms p with
    ⟨q, passed⟩ | ⟨number, arm, q, passed, found, condition, ⟨v, r, ran, high⟩ | ⟨fault, r, ran⟩⟩
  · cases fallback : Arm.fallback? arms with
    | some result => exact ⟨_, _, .fallback passed fallback⟩
    | none => exact ⟨_, _, .nothing passed fallback⟩
  · exact ⟨_, _, .holds passed found condition ran high⟩
  · exact ⟨_, _, .fails passed found condition ran⟩

/-- **Arms that agree lead to the same choice.** -/
theorem Choice.Made.congr {arms arms' : List Arm} {p : Progress} {choice : Choice}
    {outcome : Except Fault Value × Progress} (h : choice.Made call s arms p outcome)
    (agree : choice.Agree arms arms') : choice.Made call s arms' p outcome := by
  cases h with
  | holds passed found condition ran high =>
      obtain ⟨before, here⟩ := agree
      exact .holds (before ▸ passed) (here.trans found) condition ran high
  | @fails number arm fault q r passed found condition ran =>
      obtain ⟨before, here⟩ := agree
      rw [found, Option.map_some, Option.map_eq_some_iff] at here
      obtain ⟨arm', found', same⟩ := here
      refine .fails (before ▸ passed) found' ?_ (same ▸ ran)
      rw [Arm.isElse, same]
      exact condition
  | fallback passed found =>
      obtain ⟨conditions, results⟩ := agree
      exact .fallback (conditions ▸ passed) (results.trans found)
  | nothing passed found =>
      obtain ⟨conditions, results⟩ := agree
      exact .nothing (conditions ▸ passed) (results.trans found)

/-! ## The call -/

/-- An even number of arguments is made up of its pairs. -/
theorem Arm.arguments_pairs : ∀ {args : List Fragment}, args.length % 2 = 0 →
    Arm.arguments (Arm.pairs args) = args
  | [], _ => rfl
  | [_], h => by cases h
  | condition :: result :: rest, h => by
      have even : rest.length % 2 = 0 := by
        rw [List.length_cons, List.length_cons] at h
        omega
      rw [Arm.pairs, Arm.arguments, List.flatMap_cons]
      exact congrArg _ (arguments_pairs even)

theorem runIn_dispatch_if {c : Call} (hname : c.name = "if") (some : c.args ≠ [])
    (even : c.args.length % 2 = 0) (p : Progress) :
    (dispatch call c).runIn s p =
      (branches call none (Arm.arguments (Arm.pairs c.args))).runIn s p := by
  rw [runIn_dispatch_standard (b := .branch) (by decide) hname, builtin, branchCall,
    Arm.arguments_pairs even, if_neg]
  simp [some, even]

/-- **`if` is lazy and takes the first branch that holds.** For every call of `if` with pairs of arguments,
whatever the calls in it do, there is a choice that says what comes out. The same comes out, and leaves the
same variables, chance and links, for all arguments that agree on the conditions up to the one that decides
and on the result that is taken. -/
theorem if_takes_first_branch (call : Caller) (s : Setting) (p : Progress) {c : Call}
    (hname : c.name = "if") (some : c.args ≠ []) (even : c.args.length % 2 = 0) :
    ∃ choice : Choice,
      choice.Made call s (Arm.pairs c.args) p ((dispatch call c).runIn s p) ∧
      ∀ c' : Call, c'.name = "if" → c'.args.length = c.args.length →
        choice.Agree (Arm.pairs c.args) (Arm.pairs c'.args) →
        (dispatch call c').runIn s p = (dispatch call c).runIn s p := by
  obtain ⟨choice, outcome, made⟩ := exists_made call s (Arm.pairs c.args) p
  have run : (dispatch call c).runIn s p = outcome := by
    rw [runIn_dispatch_if hname some even, runIn_branches made]
  refine ⟨choice, run ▸ made, fun c' hname' length agree => ?_⟩
  have some' : c'.args ≠ [] := by
    rwa [← List.length_pos_iff, length, List.length_pos_iff]
  rw [run, runIn_dispatch_if hname' some' (length ▸ even), runIn_branches (made.congr agree)]

/-- A call with an `else` in front and a condition that holds behind it. -/
def purseCall : Call :=
  ⟨"if", [⟨4, " else ".toList⟩, ⟨11, " poor ".toList⟩, ⟨18, " 10 ".toList⟩, ⟨23, " rich".toList⟩],
    ⟨0, "(if~ else ~ poor ~ 10 ~ rich)".toList⟩⟩

theorem purse_takes_first_branch :
    Markup.scan (.ofString "(if~ else ~ poor ~ 10 ~ rich)") = .ok [.call purseCall] ∧
      purseCall.name = "if" ∧ purseCall.args ≠ [] ∧ purseCall.args.length % 2 = 0 ∧
      ∃ choice : Choice,
        choice.Made (callWith 3) default (Arm.pairs purseCall.args) default
          ((dispatch (callWith 3) purseCall).runIn default default) ∧
        ∀ c' : Call, c'.name = "if" → c'.args.length = purseCall.args.length →
          choice.Agree (Arm.pairs purseCall.args) (Arm.pairs c'.args) →
          (dispatch (callWith 3) c').runIn default default =
            (dispatch (callWith 3) purseCall).runIn default default :=
  ⟨by decide +kernel, rfl, by decide, by decide,
    if_takes_first_branch (callWith 3) default default rfl (by decide) (by decide)⟩

end Fiction.Expansion
