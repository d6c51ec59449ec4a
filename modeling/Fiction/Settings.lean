import Fiction.Fault.Basic
import Fiction.Yaml.Reader

/-!
# Fiction.Settings

The settings of a playthrough.

`Settings.parse` reads them from a settings file. Each key is optional; keys that mean nothing here,
keys that are given twice and values of the wrong kind are refused.
-/

namespace Fiction

/-- The settings of a playthrough. -/
structure Settings where
  /-- How deep calls may be nested. -/
  maxDepth : Nat := 64
  /-- The seed of chance; without one every playthrough differs. -/
  seed : Option UInt64 := none
  /-- Modules of the library besides those that the story names. -/
  modules : List String := []
deriving Repr, DecidableEq, Inhabited

namespace Settings

/-! ## Values -/

/-- The value of a digit in a base up to sixteen. -/
def digit? (base : Nat) (c : Char) : Option Nat :=
  match Yaml.digit? c with
  | some d => if d < base then some d else none
  | none => none

/-- The number that digits of a base write, if it fits in 64 bits. -/
def digits? (base : Nat) (cs : List Char) : Option UInt64 := do
  if cs.isEmpty then none
  let n ← cs.foldlM (fun n c => do return n * base + (← digit? base c)) 0
  if n < UInt64.size then some n.toUInt64 else none

/-- The number that a plain scalar writes: decimal, or in another base behind `0x`, `0o` or `0b`. A
plus sign may stand in front; a decimal number has no zeros in front of it. -/
def number? (cs : List Char) : Option UInt64 :=
  match (match cs with | '+' :: cs => cs | cs => cs) with
  | '0' :: 'x' :: cs => digits? 16 cs
  | '0' :: 'o' :: cs => digits? 8 cs
  | '0' :: 'b' :: cs => digits? 2 cs
  | '0' :: _ :: _ => none
  | cs => digits? 10 cs

/-- The words for no value. -/
def isNull (s : String) : Bool :=
  s = "null" || s = "Null" || s = "NULL" || s = "~"

/-- A scalar as a number. -/
def ofNumber? : Yaml.Item → Option UInt64
  | .scalar s => if s.plain then number? s.text.toList else none
  | .list _ => none

/-- A scalar as a number or nothing. -/
def ofOptional? (item : Yaml.Item) : Option (Option UInt64) :=
  match item with
  | .scalar ⟨true, some tag, text⟩ =>
      if tag = Yaml.Reader.standardTag ++ "null" then
        if isNull text then some none else none
      else (ofNumber? item).map some
  | .scalar ⟨true, none, text⟩ =>
      if text.isEmpty || isNull text then some none else (ofNumber? item).map some
  | _ => none

/-- The names of a list; a value that is missing is an empty list. -/
def ofNames? : Yaml.Item → Option (List String)
  | .list values => some (values.map Yaml.Scalar.text)
  | .scalar s => if s.plain && s.text.isEmpty then some [] else none

/-! ## Keys -/

/-- Reads one key with its value. -/
def read? (s : Settings) (name : String) (item : Yaml.Item) : Option Settings :=
  match name with
  | "max_depth" => do return { s with maxDepth := (← ofNumber? item).toNat }
  | "seed" => do return { s with seed := ← ofOptional? item }
  | "modules" => do return { s with modules := ← ofNames? item }
  | _ => none

/-- The settings that a document holds. -/
def ofDocument? (d : Yaml.Document) : Option Settings :=
  if (d.map Prod.fst).Nodup then d.foldlM (fun s (name, item) => s.read? name item) {} else none

/-- Reads a settings file. -/
def parse (text : String) : Except Fault Settings :=
  match (Yaml.parse? text).bind ofDocument? with
  | none => .error (.unsourced .invalidSettings .configure)
  | some s => if s.maxDepth = 0 then .error (.unsourced .zeroDepth .configure) else .ok s

end Settings

end Fiction
