import Fiction.Fault.Cause
import Fiction.Operator.Basic
import Fiction.Operator.Integer
import Fiction.Operator.Real
import Fiction.Pattern.Match
import Fiction.Pattern.Template
import Fiction.Text.Search
import Fiction.Value.Order
import Fiction.Value.Printer

/-!
# Fiction.Operator.Apply

What operators compute.

* `Operator.apply` is an operator between two values, `Operator.applyThird` one with a third operand
  behind a tilde, and `Prefix.apply` one in front of a value.
* `Value.index` looks up an element, a character or an entry.
* `Operator.reduce` folds a list with an operator and a seed between neighbours.

All of them give a cause when the operands do not fit; the caller knows where in the text that is.
-/

namespace Fiction

/-- The outcome of an operation on values. -/
abbrev Outcome (α : Type) := Except Cause α

/-- An operation that does not apply to operands of these kinds. -/
def mismatch {α : Type} (operation : String) (operands : List Value) : Outcome α :=
  .error (.mismatch operation (operands.map Value.kind))

namespace Operator

/-! ## Helpers -/

/-- An integer result, or the report that there is none. -/
def fitted (operation : String) (result : Option Int64) : Outcome Value :=
  match result with
  | some n => .ok (.int n)
  | none => .error (.invalidValue (.overflow operation))

/-- An operation on two numbers, computed on reals. -/
def onReals (operation : String) (a b : Value) (f : Float → Float → Outcome Value) :
    Outcome Value :=
  match a.asReal?, b.asReal? with
  | some x, some y => f x y
  | _, _ => mismatch operation [a, b]

/-- A division of reals, which the divisor zero makes fail. -/
def divideReals (operation : String) (a b : Value) (f : Float → Float → Float) : Outcome Value :=
  onReals operation a b fun x y =>
    if y == 0.0 then .error (.divisionByZero operation) else .ok (.real (f x y))

/-- The greatest length of a repeated text or list. -/
def repeatLimit : Nat := 16777216

/-- How often to repeat something of a given length. Nothing is repeated no times. -/
def repeatCount (what : String) (length : Nat) (count : Int64) : Outcome Nat :=
  if count.toInt < 0 then .error (.invalidValue (.negativeRepeat what count.toInt))
  else if length = 0 then .ok 0
  else if length * count.toInt.toNat ≤ repeatLimit then .ok count.toInt.toNat
  else .error (.invalidValue (.longRepeat what count.toInt repeatLimit))

/-- A text a number of times. -/
def repeatText (s : String) (count : Int64) : Outcome Value := do
  let n ← repeatCount "text" s.utf8ByteSize count
  return .text (String.join (List.replicate n s))

/-- A list a number of times. -/
def repeatList (items : List Value) (count : Int64) : Outcome Value := do
  let n ← repeatCount "a list" items.length count
  return .list (List.replicate n items).flatten

/-- The machine of a regular expression. -/
def compile (pattern : String) : Outcome Machine :=
  match Machine.ofText? pattern with
  | some m => .ok m
  | none => .error (.invalidPattern pattern)

/-- The machine that matches whole texts only. -/
def compileWhole (pattern : String) : Outcome Machine := do
  let _ ← compile pattern
  compile ("^(?:" ++ pattern ++ ")$")

/-- The text of a pattern operand. -/
def patternText (operation : String) : Value → Outcome String
  | .text s => .ok s
  | v => .error (.expectedKind s!"text pattern for '{operation}'" v.kind)

/-! ## Arithmetic -/

/-- `+` adds numbers, appends to text what the other side renders as, and joins lists and
mappings; of two mappings the right one wins. -/
def add (a b : Value) : Outcome Value :=
  match a, b with
  | .int x, .int y => fitted "+" (Integer.add? x y)
  | .text s, v => .ok (.text (s ++ v.display))
  | v, .text s => .ok (.text (v.display ++ s))
  | .list xs, .list ys => .ok (.list (xs ++ ys))
  | .mapping m, .mapping m' => .ok (.mapping (Mapping.union m m' true))
  | a, b => onReals "+" a b fun x y => .ok (.real (x + y))

/-- `-` subtracts numbers, removes a text from another one everywhere, and removes from a mapping
the keys of another one. -/
def subtract (a b : Value) : Outcome Value :=
  match a, b with
  | .int x, .int y => fitted "-" (Integer.sub? x y)
  | .text s, .text t =>
      .ok (.text (if t.isEmpty then s else String.ofList (Text.replaceAll t.toList [] s.toList)))
  | .mapping m, .mapping m' => .ok (.mapping (Mapping.without m m'))
  | a, b => onReals "-" a b fun x y => .ok (.real (x - y))

/-- `*` multiplies numbers and repeats texts and lists. -/
def multiply (a b : Value) : Outcome Value :=
  match a, b with
  | .int x, .int y => fitted "*" (Integer.mul? x y)
  | .text s, .int n => repeatText s n
  | .int n, .text s => repeatText s n
  | .list xs, .int n => repeatList xs n
  | .int n, .list xs => repeatList xs n
  | a, b => onReals "*" a b fun x y => .ok (.real (x * y))

/-- `/` divides numbers, exactly if it can, searches a text for a regular expression and a list for
an element. -/
def divide (a b : Value) : Outcome Value :=
  match a, b with
  | .int x, .int y =>
      if y == 0 then .error (.divisionByZero "/")
      else if Integer.remainder? x y == some 0 then fitted "/" (Integer.quotient? x y)
      else divideReals "/" a b (· / ·)
  | .text s, .text p => do return .bool ((← compile p).hasMatch s.toList.toArray)
  | .list xs, v => .ok (.bool (xs.any (· == v)))
  | a, b => divideReals "/" a b (· / ·)

/-- `//` divides numbers and rounds down, searches a text for another one and a list for an
element. -/
def floorDivide (a b : Value) : Outcome Value :=
  match a, b with
  | .int x, .int y =>
      if y == 0 then .error (.divisionByZero "//") else fitted "//" (Integer.floorDiv? x y)
  | .text s, .text t => .ok (.bool (Text.occurs t.toList s.toList))
  | .list xs, v => .ok (.bool (xs.any (· == v)))
  | a, b => divideReals "//" a b fun x y => (x / y).floor

/-- `%` is the remainder that goes with `//`. -/
def modulo (a b : Value) : Outcome Value :=
  match a, b with
  | .int x, .int y =>
      if y == 0 then .error (.divisionByZero "%") else fitted "%" (Integer.floorMod? x y)
  | a, b => divideReals "%" a b Real.floorMod

/-- `**` raises to a power; integers stay integers unless the exponent is negative. -/
def raise (a b : Value) : Outcome Value :=
  match a, b with
  | .int x, .int y =>
      if y.toInt < 0 then .ok (.real (Float.pow (Value.nearestReal x) (Value.nearestReal y)))
      else fitted "**" (Integer.pow? x y.toInt.toNat)
  | a, b => onReals "**" a b fun x y => .ok (.real (Float.pow x y))

/-! ## Comparison and logic -/

/-- An order comparison. -/
def order (operation : String) (a b : Value) (accept : Ordering → Bool) : Outcome Value :=
  match a.compare? b with
  | some o => .ok (.bool (accept o))
  | none => mismatch operation [a, b]

/-- `&` on integers, booleans and mappings. -/
def intersect (a b : Value) : Outcome Value :=
  match a, b with
  | .int x, .int y => .ok (.int (x &&& y))
  | .bool x, .bool y => .ok (.bool (x && y))
  | .mapping m, .mapping m' => .ok (.mapping (Mapping.restrict m m'))
  | a, b => mismatch "&" [a, b]

/-- `|` on integers, booleans and mappings; of two mappings the left one wins. -/
def unite (a b : Value) : Outcome Value :=
  match a, b with
  | .int x, .int y => .ok (.int (x ||| y))
  | .bool x, .bool y => .ok (.bool (x || y))
  | .mapping m, .mapping m' => .ok (.mapping (Mapping.union m m' false))
  | a, b => mismatch "|" [a, b]

/-! ## Text and collections -/

/-- Pieces of text as a list of values. -/
def textList (pieces : List (List Char)) : Value :=
  .list (pieces.map fun p => .text (String.ofList p))

/-- `^` splits a text at the matches of a regular expression; between integers and booleans it is
exclusive or. -/
def splitPattern (a b : Value) : Outcome Value :=
  match a, b with
  | .text s, .text p => do return textList ((← compile p).split s.toList.toArray)
  | .int x, .int y => .ok (.int (x ^^^ y))
  | .bool x, .bool y => .ok (.bool (x != y))
  | a, b => mismatch "^" [a, b]

/-- `^^` splits a text at a delimiter. Of the empty pieces only those at the ends are kept. -/
def splitLiteral (a b : Value) : Outcome Value :=
  match a, b with
  | .text s, .text d =>
      if d.isEmpty then .error (.invalidValue .emptyDelimiter)
      else .ok (textList (Text.dropInner (Text.split d.toList s.toList)))
  | a, b => mismatch "^^" [a, b]

/-- `.` appends to a list or a text. -/
def append (a b : Value) : Outcome Value :=
  match a with
  | .list xs => .ok (.list (xs ++ [b]))
  | .text s => .ok (.text (s ++ b.display))
  | a => mismatch "." [a, b]

/-- An operator between two values. -/
def apply (op : Operator) (a b : Value) : Outcome Value :=
  match op with
  | plus => add a b
  | minus => subtract a b
  | times => multiply a b
  | slash => divide a b
  | doubleSlash => floorDivide a b
  | percent => modulo a b
  | doublePercent => mismatch "%%" [a, b]
  | power => raise a b
  | caret => splitPattern a b
  | doubleCaret => splitLiteral a b
  | dot => append a b
  | bar => unite a b
  | ampersand => intersect a b
  | equal => .ok (.bool (a == b))
  | unequal => .ok (.bool (a != b))
  | less => order "<" a b (· == .lt)
  | greater => order ">" a b (· == .gt)
  | atMost => order "<=" a b (· != .gt)
  | atLeast => order ">=" a b (· != .lt)
  | and => .ok (if a.isTruthy then b else a)
  | or => .ok (if a.isTruthy then a else b)

/-! ## Operators with a third operand -/

/-- A text with the matches of a regular expression replaced. -/
def replaceMatches (m : Machine) (template : List Char) (count : Option Nat) (s : String) :
    String :=
  let text := s.toList.toArray
  let found := m.findAll text
  let found := match count with
    | some n => found.take n
    | none => found
  String.ofList (Machine.replace text (fun group => Template.expand group template) 0 found)

/-- `%` with a replacement: in a text every match is replaced, in a list each text that matches as
a whole. -/
def replacePattern (target pattern replacement : Value) : Outcome Value := do
  let p ← patternText "%" pattern
  let template := Template.dollarForm replacement.display.toList
  match target with
  | .text s => return .text (replaceMatches (← compile p) template none s)
  | .list xs =>
      let m ← compileWhole p
      return .list (xs.map fun v =>
        match v with
        | .text s =>
            if m.hasMatch s.toList.toArray then .text (replaceMatches m template (some 1) s) else v
        | v => v)
  | v => mismatch "% ~" [v]

/-- `%%` with a replacement: in a text every occurrence is replaced, in a list each equal
element. -/
def replaceLiteral (target needle replacement : Value) : Outcome Value :=
  match target with
  | .text s => do
      let t ← patternText "%%" needle
      return .text
        (String.ofList (Text.replaceAll t.toList replacement.display.toList s.toList))
  | .list xs => .ok (.list (xs.map fun v => if v == needle then replacement else v))
  | v => mismatch "%% ~" [v]

/-- `.` with a value puts an entry into a mapping. -/
def insertEntry (target key value : Value) : Outcome Value :=
  match target, key with
  | .mapping m, .text k => .ok (.mapping (Mapping.insert m k value))
  | .mapping _, v => .error (.expectedKind "text key" v.kind)
  | _, _ => mismatch ". ~" [target, key, value]

/-- An operator with a third operand. -/
def applyThird (op : Operator) (a b c : Value) : Outcome Value :=
  match op with
  | percent => replacePattern a b c
  | doublePercent => replaceLiteral a b c
  | dot => insertEntry a b c
  | op => mismatch (op.symbol ++ " ~") [a, b, c]

/-! ## Reduction -/

/-- Folds the rest of a list into a value, with the seed in front of every element. -/
def reduceFrom (op : Operator) (seed : Value) : Value → List Value → Outcome Value
  | acc, [] => .ok acc
  | acc, v :: rest => do
      let joined ← op.apply acc seed
      reduceFrom op seed (← op.apply joined v) rest

/-- Folds a list with an operator, the seed between neighbours. An empty list gives the neutral
value of the seed's kind. -/
def reduce (op : Operator) (items : List Value) (seed : Value) : Outcome Value :=
  match items with
  | [] => .ok seed.zeroLike
  | first :: rest => reduceFrom op seed first rest

end Operator

/-- An operator in front of a value. -/
def Prefix.apply (op : Prefix) (v : Value) : Outcome Value :=
  match op, v with
  | negate, .int n => Operator.fitted "-" (Integer.neg? n)
  | negate, .real x => .ok (.real (-x))
  | negate, v => mismatch "-" [v]
  | affirm, .int n => .ok (.int n)
  | affirm, .real x => .ok (.real x)
  | affirm, v => mismatch "+" [v]
  | not, v => .ok (.bool (!v.isTruthy))

/-- The element at a position; negative positions count from the end. -/
def Value.atPosition? {α : Type} (items : List α) (index : Int) : Option α :=
  let position := if index < 0 then items.length + index else index
  if 0 ≤ position then items[position.toNat]? else none

/-- The element, character or entry of a value. -/
def Value.index (target index : Value) : Outcome Value :=
  match target, index with
  | .list xs, .int i =>
      match atPosition? xs i.toInt with
      | some v => .ok v
      | none => .error (.invalidValue (.outOfRange i.toInt xs.length))
  | .text s, .int i =>
      let cs := s.toList
      match atPosition? cs i.toInt with
      | some c => .ok (.text (String.ofList [c]))
      | none => .error (.invalidValue (.outOfRange i.toInt cs.length))
  | .mapping m, .text k =>
      match Mapping.get? m k with
      | some v => .ok v
      | none => .error (.undefined s!"[{index.literal}]")
  | target, index => mismatch "[]" [target, index]

end Fiction
