import Fiction.Expansion.Markup

/-!
# Fiction.Expansion.Calls

The calls that are always there.

Arguments reach a call as they are written. Some are evaluated as expressions, some are expanded as
markup and read as paths, and those that hold markup are expanded only when they are chosen.
-/

namespace Fiction.Expansion

/-- The argument at an index. -/
def argument (c : Call) (index : Nat) : Fragment :=
  c.args.getD index ⟨c.source.stop, []⟩

/-- Fails because of the arguments of a call. -/
def malformed {α : Type} (c : Call) (flaw : CallFlaw) : Expansion α :=
  fail (.malformedCall c.name flaw) c.span

/-! ## Changes of state -/

/-- `set` stores a value. -/
def setCall (call : Caller) (c : Call) : Expansion Value := do
  ofFlaw (Traversal.checkArguments .set c)
  let path ← pathArgument call (argument c 0)
  let value ← evaluate call (argument c 1)
  ofOutcome (argument c 0).span (← write path value)
  return .null

/-- `add` adds to a stored value. -/
def addCall (call : Caller) (c : Call) : Expansion Value := do
  ofFlaw (Traversal.checkArguments .add c)
  let path ← pathArgument call (argument c 0)
  let delta ← evaluate call (argument c 1)
  let _ ← ofOutcome (argument c 0).span (← add path delta)
  return .null

/-- `invert` turns a stored value into its opposite. -/
def invertCall (call : Caller) (c : Call) : Expansion Value := do
  ofFlaw (Traversal.checkArguments .invert c)
  let path ← pathArgument call (argument c 0)
  let _ ← ofOutcome (argument c 0).span (← invert path)
  return .null

/-! ## Values -/

/-- `eval` is the value of an expression. -/
def evalCall (call : Caller) (c : Call) : Expansion Value := do
  ofFlaw (Traversal.checkCount c 1)
  evaluate call (argument c 0)

/-- `text` joins what its arguments expand to. -/
def textCall (call : Caller) (c : Call) : Expansion Value := do
  let parts ← c.args.mapM (body call)
  return .text (String.join (parts.map Value.display))

/-- `lookup` is the value at a path. -/
def lookupCall (call : Caller) (c : Call) : Expansion Value := do
  ofFlaw (Traversal.checkCount c 1)
  let path ← pathArgument call (argument c 0)
  ofOutcome (argument c 0).span (← resolve path)

/-- `context` is a value of the context, counted from one, or null. -/
def contextCall (call : Caller) (c : Call) : Expansion Value := do
  ofFlaw (Traversal.checkCount c 1)
  match ← evaluate call (argument c 0) with
  | .int n =>
      if n.toInt < 1 then return .null
      else return (← get).scope.surroundings.context.getD (n.toInt.toNat - 1) .null
  | v => fail (.expectedKind "integer" v.kind) (argument c 0).span

/-! ## Conditions -/

/-- Whether a condition is the word `else`. -/
def isElse (f : Fragment) : Bool :=
  f.trim.chars == ['e', 'l', 's', 'e']

/-- Goes through conditions and results in pairs. The first result whose condition holds is
expanded; if there is none, it is the first one behind `else`, or null. -/
def branches (call : Caller) : (fallback : Option Fragment) → List Fragment → Expansion Value
  | fallback, condition :: result :: rest => do
      if isElse condition then branches call (fallback.or (some result)) rest
      else if (← evaluate call condition).isTruthy then body call result
      else branches call fallback rest
  | some result, _ => body call result
  | none, _ => pure .null

/-- `if` expands the result of the first condition that holds. -/
def branchCall (call : Caller) (c : Call) : Expansion Value :=
  if c.args.isEmpty || c.args.length % 2 != 0 then malformed c .unpairedCondition
  else branches call none c.args

/-- `once` expands its argument on the first visit to a node and `again` on the others. -/
def visitCall (call : Caller) (first : Bool) (c : Call) : Expansion Value := do
  ofFlaw (Traversal.checkCount c 1)
  if (← get).scope.surroundings.once == first then body call (argument c 0) else return .null

/-! ## Chance -/

/-- `random` is an element of a list or an integer from a range. -/
def randomCall (call : Caller) (c : Call) : Expansion Value := do
  match c.args with
  | [choices] =>
      match ← evaluate call choices with
      | .list items =>
          if items.isEmpty then fail (.invalidValue .emptyChoice) choices.span
          else
            let position ← draw (Chance.choice items.length)
            return items.getD position .null
      | v => fail (.expectedKind "list" v.kind) choices.span
  | [low, high] =>
      let span := low.span.join high.span
      let low ← evaluate call low
      let high ← evaluate call high
      match low, high with
      | .int low, .int high =>
          if low.toInt ≤ high.toInt then return .int (← draw (Chance.between low high))
          else fail (.invalidValue (.emptyRange low.toInt high.toInt)) span
      | low, high => fail (.mismatch "random" [low.kind, high.kind]) span
  | _ => malformed c .missingBounds

end Fiction.Expansion
