import Fiction.Fault.Cause
import Fiction.Value.Exchange

/-!
# Fiction.Library

The calls that stories can make besides including their own nodes.

* `Builtin` lists them; most are always there, and those of the inventory belong to a module.
* `Library` is a choice of modules. `Library.enable` adds one and `Library.find?` looks a name up.
-/

namespace Fiction

/-- A call of the library. -/
inductive Builtin where
  | set
  | add
  | invert
  | eval
  | text
  | lookup
  | context
  | branch
  | once
  | again
  | random
  | count
  | list
  | plus
  | minus
deriving Repr, DecidableEq, Inhabited

namespace Builtin

/-- The calls that are always there. -/
def standard : List Builtin :=
  [set, add, invert, eval, text, lookup, context, branch, once, again, random]

/-- The calls of the inventory. -/
def inventory : List Builtin :=
  [count, list, plus, minus]

/-- The name of a call. -/
def name : Builtin → String
  | set => "set"
  | add => "add"
  | invert => "invert"
  | eval => "eval"
  | text => "text"
  | lookup => "lookup"
  | context => "context"
  | branch => "if"
  | once => "once"
  | again => "again"
  | random => "random"
  | count => "count"
  | list => "list"
  | plus => "plus"
  | minus => "minus"

/-- How a call is used, in a line. -/
def usage : Builtin → String
  | set => "(set~ path ~ expr) stores a value"
  | add => "(add~ path ~ expr) adds to a stored value"
  | invert => "(invert~ path) negates a stored value"
  | eval => "(eval~ expr) evaluates an expression"
  | text => "(text~ markup ~ ...) expands markup to text"
  | lookup => "(lookup~ path) reads a stored value"
  | context => "(context~ n) the nth context value"
  | branch => "(if~ cond ~ result ~ ... ~ else ~ result)"
  | once => "(once~ markup) first visit only"
  | again => "(again~ markup) return visits only"
  | random => "(random~ lo ~ hi) or (random~ list)"
  | count => "(count~ item | #category) items held"
  | list => "(list~ #category) held items as text"
  | plus => "(plus~ item ~ n) gain items"
  | minus => "(minus~ item ~ n) lose items"

end Builtin

/-- The calls of a module. -/
def moduleCalls? : String → Option (List Builtin)
  | "inventory" => some Builtin.inventory
  | _ => none

/-- A choice of modules. -/
structure Library where
  /-- The modules in the order in which they were enabled. -/
  enabled : List String
deriving Repr, DecidableEq, Inhabited

namespace Library

/-- The library without modules. -/
def standard : Library := ⟨[]⟩

/-- Enables a module. Doing so again changes nothing. -/
def enable (l : Library) (name : String) : Except Cause Library :=
  if l.enabled.contains name then .ok l
  else if (moduleCalls? name).isSome then .ok ⟨l.enabled ++ [name]⟩
  else .error (.unknownModule name)

/-- Enables one module after the other. -/
def enableAll (l : Library) (names : List String) : Except Cause Library :=
  names.foldlM enable l

/-- The calls of a module with their names, which they have with and without that of the module. -/
def moduleEntries (name : String) : List (String × Builtin) :=
  ((moduleCalls? name).getD []).flatMap fun b => [(s!"{name}.{b.name}", b), (b.name, b)]

/-- All calls with their names. -/
def entries (l : Library) : Mapping Builtin :=
  Mapping.ofEntries (Builtin.standard.map (fun b => (b.name, b)) ++ l.enabled.flatMap moduleEntries)

/-- The call with a name. -/
def find? (l : Library) (name : String) : Option Builtin :=
  Mapping.get? l.entries name

/-- The calls in the order of their names. -/
def sorted (l : Library) : List (String × Builtin) :=
  Mapping.sorted l.entries

/-- Names in quotes, with brackets around them. -/
def quoteNames (names : List String) : String :=
  "[" ++ String.intercalate ", " (names.map fun name => "\"" ++ name ++ "\"") ++ "]"

/-- The library in a line, for those who look for mistakes. -/
def summary (l : Library) : String :=
  "MacroRegistry \x7b macros: " ++ quoteNames (l.sorted.map Prod.fst) ++ ", enabled: " ++
    quoteNames l.enabled ++ " \x7d"

end Library

end Fiction
