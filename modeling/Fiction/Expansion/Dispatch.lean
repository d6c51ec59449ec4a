import Fiction.Expansion.Inventory

/-!
# Fiction.Expansion.Dispatch

What a call does: run something of the library, or include a node.

* `Expansion.dispatch` finds what a name stands for; the library comes before the nodes.
* `Expansion.callWith` runs a call with a number of levels left. Everything that a call expands has
  one level less, so expansion ends.
* `Expansion.runCommand` makes the change of a link that is followed.
-/

namespace Fiction.Expansion

/-- Runs a call of the library. -/
def builtin (call : Caller) (c : Call) : Builtin → Expansion Value
  | .set => setCall call c
  | .add => addCall call c
  | .invert => invertCall call c
  | .eval => evalCall call c
  | .text => textCall call c
  | .lookup => lookupCall call c
  | .context => contextCall call c
  | .branch => branchCall call c
  | .once => visitCall call true c
  | .again => visitCall call false c
  | .random => randomCall call c
  | .count => countCall call c
  | .list => listCall call c
  | .plus => plusCall call c
  | .minus => minusCall call c

/-- The values that an inclusion hands over. -/
def inclusionContext (call : Caller) (c : Call) : Expansion (List Value) :=
  c.args.mapM fun arg => if arg.isBlank then pure .null else evaluate call arg

/-- Expands the text of a node in place of a call. The node sees the variables of the including one,
but what it writes to them and the links it has do not come back. -/
def inclusion (call : Caller) (name : String) (node : NodeBody) (context : List Value) :
    Expansion Value :=
  match node with
  | .fixed content _ => pure (.text content)
  | .markup content =>
      mapFault (·.inNode name) (borrowing (·.enter ⟨name, content⟩ context) Progress.leave do
        return .text (← markup call (.ofString content)))

/-- Runs what the name of a call stands for. -/
def dispatch (call : Caller) (c : Call) : Expansion Value := do
  let s ← read
  match s.library.find? c.name with
  | some b => builtin call c b
  | none =>
      match s.story.node? c.name with
      | some node => do inclusion call c.name node (← inclusionContext call c)
      | none => fail (.unknownCall c.name) c.span

/-- Runs a call with a number of levels left. -/
def callWith : (room : Nat) → Caller
  | 0, c => do fail (.recursionLimit (← read).limit) c.span
  | room + 1, c =>
      mapFault (·.inCall c.name)
        (borrowing Progress.deeper (fun p _ => p.shallower) (dispatch (callWith room) c))

/-- The number of levels left. -/
def room : Expansion Nat := do
  return (← read).limit - (← get).depth

/-- Runs a call. -/
def callTop (c : Call) : Expansion Value := do
  callWith (← room) c

/-- The value of an expression. -/
def evaluateTop (f : Fragment) : Expansion Value := do
  evaluate (callWith (← room)) f

/-- The text of markup. -/
def markupTop (f : Fragment) : Expansion String := do
  markup (callWith (← room)) f

/-- What an argument that holds markup expands to. -/
def bodyTop (f : Fragment) : Expansion Value := do
  body (callWith (← room)) f

/-- The path in an argument. -/
def pathTop (f : Fragment) : Expansion Path := do
  pathArgument (callWith (← room)) f

/-! ## Commands of links -/

/-- The change that a literal command makes. -/
def literalCommand (command : Command) (verb : Verb) (path : Path) (value : Option Value) :
    Expansion (Outcome Unit) :=
  match verb, value with
  | .set, some v => write path v
  | .add, some v => do return (← add path v).map fun _ => ()
  | .invert, _ => do return (← invert path).map fun _ => ()
  | _, none => return .error (.malformedLink (.noValue command.text))

/-- Makes the change of a command. Faults of a call point into the call, and those of a literal
command into its text. -/
def runCommand (command : Command) : Expansion Unit :=
  match command with
  | .call _ source =>
      borrowing (·.enterCommand source) Progress.leaveCommand do
        let _ ← markupTop (.ofString source)
  | .literal verb path value => do
      match ← literalCommand command verb path value with
      | .ok () => return ()
      | .error cause =>
          let text := command.text
          throw (.ofFlaw ⟨"command", text⟩ (← get).phase (.of cause ⟨0, text.utf8ByteSize⟩))

end Fiction.Expansion
