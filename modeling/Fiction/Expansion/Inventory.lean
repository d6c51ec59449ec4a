import Fiction.Expansion.Calls

/-!
# Fiction.Expansion.Inventory

The calls of the inventory, over three variables of the story:

* `inv` maps items to counts;
* `inv-desc` maps items to the texts that describe them;
* `inv-cat` maps items to a category or a list of categories.

An item whose count drops to zero or below is no longer held.
-/

namespace Fiction.Expansion

/-- The path of an item's count. -/
def itemPath (item : String) : Path :=
  ⟨"inv", [item]⟩

/-- Whether a value was looked for in vain. -/
def isUndefined : Cause → Bool
  | .undefined _ => true
  | _ => false

/-- A variable that holds a mapping. One that does not exist is empty. -/
def table (name : String) : Expansion (Outcome (Mapping Value)) := do
  match ← resolve (.single name) with
  | .ok (.mapping m) => return .ok m
  | .ok v => return .error (.expectedKind s!"mapping at '{name}'" v.kind)
  | .error cause => return if isUndefined cause then .ok [] else .error cause

/-- Whether an item belongs to a category. -/
def inCategory (categories : Mapping Value) (item category : String) : Bool :=
  match Mapping.get? categories item with
  | some (.text c) => c == category
  | some (.list cs) => cs.any fun c =>
      match c with
      | .text c => c == category
      | _ => false
  | _ => false

/-- A value as a count; what is no number counts as zero. -/
def countOf : Value → Int64
  | .int n => n
  | .real x => x.toInt64
  | _ => 0

/-- The sum of counts. -/
def total (counts : List Value) : Outcome Int64 :=
  match counts.foldlM (fun sum v => Integer.add? sum (countOf v)) 0 with
  | some sum => .ok sum
  | none => .error (.invalidValue (.overflow "count"))

/-- Stores the count of an item, or removes the item. -/
def storeCount (path : Path) (left : Int64) : Expansion (Outcome Unit) := do
  if left.toInt > 0 then write path (.int left)
  else
    match ← remove path with
    | .ok _ => return .ok ()
    | .error cause => return if isUndefined cause then .ok () else .error cause

/-- The text of an argument that names an item or a category, unless it is blank. -/
def selector (call : Caller) (arg : Option Fragment) : Expansion (Option String) := do
  match arg with
  | some f =>
      if f.isBlank then return none else return some (Text.trimString (← markup call f.trim))
  | none => return none

/-- The amount by which a count changes, which is one if it is not given. -/
def amount (call : Caller) (c : Call) : Expansion Int64 := do
  match c.args[1]? with
  | some f =>
      if f.isBlank then return 1
      else
        match ← evaluate call f with
        | .int n => return n
        | v => fail (.expectedKind "integer amount" v.kind) f.span
  | none => return 1

/-- The item whose count changes. -/
def itemArgument (call : Caller) (c : Call) : Expansion String := do
  if c.args.isEmpty || decide (2 < c.args.length) then malformed c .itemCount
  else
    match ← selector call c.args[0]? with
    | some item => return item
    | none => malformed c .missingItem

/-- The category that a selector names with its sign. -/
def category? (s : String) : Option String :=
  match s.toList with
  | '#' :: rest => some (String.ofList rest)
  | _ => none

/-- `count` is the number of all items held, of one item, or of the items of a category. -/
def countCall (call : Caller) (c : Call) : Expansion Value := do
  if 1 < c.args.length then malformed c .manyFilters
  else
    let which ← selector call c.args[0]?
    let held ← ofOutcome c.span (← table "inv")
    match which with
    | none => return .int (← ofOutcome c.span (total (held.map Prod.snd)))
    | some name =>
        match category? name with
        | some category =>
            let categories ← ofOutcome c.span (← table "inv-cat")
            let counts := held.filter fun (item, _) => inCategory categories item category
            return .int (← ofOutcome c.span (total (counts.map Prod.snd)))
        | none => return .int (((Mapping.get? held name).map countOf).getD 0)

/-- An item in a listing, with its count if there is more than one. -/
def describe (descriptions : Mapping Value) (item : String) (count : Int64) : String :=
  let name := ((Mapping.get? descriptions item).map Value.display).getD item
  if count == 1 then name else s!"{name} ({Decimal.ofInt count.toInt})"

/-- `list` is the items held, or those of a category, as text. -/
def listCall (call : Caller) (c : Call) : Expansion Value := do
  if 1 < c.args.length then malformed c .manyFilters
  else
    let filter ← selector call c.args[0]?
    let category ←
      match filter with
      | none => pure none
      | some name =>
          match category? name with
          | some category => pure (some category)
          | none => malformed c .badFilter
    let held ← ofOutcome c.span (← table "inv")
    let descriptions ← ofOutcome c.span (← table "inv-desc")
    let categories ← ofOutcome c.span (← table "inv-cat")
    let entries := held.filterMap fun (item, v) =>
      let chosen :=
        match category with
        | some category => inCategory categories item category
        | none => true
      if (countOf v).toInt > 0 && chosen then some (describe descriptions item (countOf v)) else none
    return .text (String.intercalate ", " entries)

/-- Stores the result of a change of a count. -/
def storeChange (c : Call) (path : Path) (operation : String) (left : Option Int64) :
    Expansion Value := do
  match left with
  | some left =>
      ofOutcome c.span (← storeCount path left)
      return .null
  | none => fail (.invalidValue (.overflow operation)) c.span

/-- `plus` adds to the count of an item. -/
def plusCall (call : Caller) (c : Call) : Expansion Value := do
  let item ← itemArgument call c
  let n ← amount call c
  let path := itemPath item
  let held ←
    match ← resolve path with
    | .ok v => pure (countOf v)
    | .error cause => if isUndefined cause then pure 0 else fail cause c.span
  storeChange c path "plus" (Integer.add? held n)

/-- `minus` takes from the count of an item that is held. -/
def minusCall (call : Caller) (c : Call) : Expansion Value := do
  let item ← itemArgument call c
  let n ← amount call c
  let path := itemPath item
  let held ← ofOutcome c.span (← resolve path)
  storeChange c path "minus" (Integer.sub? (countOf held) n)

end Fiction.Expansion
