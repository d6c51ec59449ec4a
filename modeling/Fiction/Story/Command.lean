import Fiction.Json.Printer
import Fiction.Json.Reader
import Fiction.Path
import Fiction.Value.Exchange

/-!
# Fiction.Story.Command

The changes of state that following a link makes.

* `Command` is a call kept as it is written, or a literal path with a value.
* `Command.text` writes a command and `Command.parse` reads a literal one, such as `set mood "grim"`.
-/

namespace Fiction

/-- What a command does. -/
inductive Verb where
  | set
  | add
  | invert
deriving Repr, DecidableEq, Inhabited

namespace Verb

/-- The word for a verb. -/
def name : Verb → String
  | set => "set"
  | add => "add"
  | invert => "invert"

/-- The verb with a name. -/
def ofName? : String → Option Verb
  | "set" => some set
  | "add" => some add
  | "invert" => some invert
  | _ => none

/-- A verb is found by its name. -/
theorem ofName?_name (v : Verb) : ofName? v.name = some v := by
  cases v <;> rfl

end Verb

/-- A change of state that is made when a link is followed. -/
inductive Command where
  /-- A call from a link's markup, expanded at that time. -/
  | call (verb : Verb) (source : String)
  /-- A path and a value, which `invert` does without. -/
  | literal (verb : Verb) (path : Path) (value : Option Value)
deriving Repr, Inhabited

namespace Command

/-- What a command does. -/
def verb : Command → Verb
  | call v _ => v
  | literal v _ _ => v

/-- The command as it is written. -/
def text : Command → String
  | call _ source => source
  | literal v path none => s!"{v.name} {path.text}"
  | literal v path (some value) => s!"{v.name} {path.text} {value.toSorted.compact}"

/-- Equality up to the equality of values. -/
def beq : Command → Command → Bool
  | call v s, call v' s' => v == v' && s == s'
  | literal v p none, literal v' p' none => v == v' && p == p'
  | literal v p (some x), literal v' p' (some x') => v == v' && p == p' && x == x'
  | _, _ => false

instance : BEq Command := ⟨beq⟩

/-- The parts of a text before and after its first space. -/
def splitWord (cs : List Char) : List Char × List Char :=
  (cs.takeWhile (· != ' '), (cs.dropWhile (· != ' ')).drop 1)

/-- Reads a literal command: a verb, a path and, unless the verb is `invert`, a data tree. -/
def parse (s : String) : Except Cause Command :=
  let invalid {α : Type} (flaw : CommandFlaw) : Except Cause α :=
    .error (.invalidStory (.badCommand s flaw))
  let (word, rest) := splitWord (Text.trim s.toList)
  match Verb.ofName? (String.ofList word) with
  | none => invalid .unknownVerb
  | some verb =>
      let (path, value) := splitWord (Text.trimStart rest)
      match Path.parse (String.ofList path) with
      | .error _ => invalid .badPath
      | .ok path =>
          let value := Text.trim value
          match verb, value.isEmpty with
          | .invert, true => .ok (.literal verb path none)
          | .invert, false => invalid .unwantedValue
          | _, true => invalid .missingValue
          | _, false =>
              match Json.parse? (String.ofList value) with
              | some tree => .ok (.literal verb path (some (.ofSorted tree)))
              | none => invalid .badValue

end Command

/-- A link that a rendered node offers. -/
structure Link where
  /-- What the reader sees. -/
  label : String
  /-- The node it leads to. -/
  target : String
  /-- The values that the target sees as its context. -/
  context : List Value
  /-- What happens on the way. -/
  commands : List Command
  /-- The node whose text has the link. -/
  origin : String
deriving Repr, Inhabited

end Fiction
