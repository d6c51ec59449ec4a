import Fiction.Yaml.Basic

/-!
# Fiction.Yaml.Scalar

Reading single values: plain ones, quoted ones and indented blocks of lines.
-/

namespace Fiction.Yaml

/-! ## Plain scalars -/

/-- Reads on in a plain scalar. `text` is what was read, the last character first; `word` tells
whether the last character belongs to a word. Later lines have to be indented by `least`. The result
tells what was skipped behind the last word. -/
def plainFrom (flow : Bool) (least : Nat) (word : Bool) (text : List Char) (fold : Fold)
    (column : Nat) : List Char → Option (List Char × Fold × Cursor)
  | [] => some (text, fold, ⟨[], column⟩)
  | '\r' :: '\n' :: cs => plainFrom flow least false text (fold.newline '\n') 0 cs
  | c :: cs =>
      if isBreak c then plainFrom flow least false text (fold.newline (lineEnd c)) 0 cs
      else if isSpace c then
        if c = '\t' && fold.lead.isSome && column < least then none
        else plainFrom flow least false text (fold.space c) (column + 1) cs
      else if !word && (c = '#' || (column == 0 && startsMarker (c :: cs)) ||
          (!flow && column < least)) then
        some (text, fold, ⟨c :: cs, column⟩)
      else if flow && c = ':' && (cs.head?.any fun d => isFlowMark d || d = '?') then none
      else if (c = ':' && endsWord cs) || (flow && isFlowMark c) then
        some (text, fold, ⟨c :: cs, column⟩)
      else plainFrom flow least true (c :: fold.text.reverse ++ text) {} (column + 1) cs

/-- Reads a plain scalar, and tells whether a line ended behind it. -/
def readPlain (flow : Bool) (least : Nat) (c : Cursor) : Option (String × Cursor × Bool) := do
  if startsPlain flow c.rest then
    let (text, fold, after) ← plainFrom flow least true [] {} c.column c.rest
    some (String.ofList text.reverse, after, fold.lead.isSome)
  else none

/-! ## Quoted scalars -/

/-- Reads on between single quotes; two of them stand for one. -/
def singleFrom (text : List Char) (fold : Fold) (column : Nat) :
    List Char → Option (List Char × Cursor)
  | [] => none
  | '\'' :: '\'' :: cs => singleFrom ('\'' :: fold.text.reverse ++ text) {} (column + 2) cs
  | '\'' :: cs => some (fold.text.reverse ++ text, ⟨cs, column + 1⟩)
  | '\r' :: '\n' :: cs => singleFrom text (fold.newline '\n') 0 cs
  | c :: cs =>
      if isBreak c then singleFrom text (fold.newline (lineEnd c)) 0 cs
      else if isSpace c then singleFrom text (fold.space c) (column + 1) cs
      else if column == 0 && startsMarker (c :: cs) then none
      else singleFrom (c :: fold.text.reverse ++ text) {} (column + 1) cs

/-- The character that a letter after a backslash stands for. -/
def escape? (c : Char) : Option Char :=
  match c with
  | '0' => some (Char.ofNat 0)
  | 'a' => some (Char.ofNat 7)
  | 'b' => some (Char.ofNat 8)
  | 't' => some '\t'
  | '\t' => some '\t'
  | 'n' => some '\n'
  | 'v' => some (Char.ofNat 11)
  | 'f' => some (Char.ofNat 12)
  | 'r' => some '\r'
  | 'e' => some (Char.ofNat 27)
  | ' ' => some ' '
  | '"' => some '"'
  | '/' => some '/'
  | '\\' => some '\\'
  | 'N' => some '\u0085'
  | '_' => some '\u00a0'
  | 'L' => some '\u2028'
  | 'P' => some '\u2029'
  | _ => none

/-- The value of a hexadecimal digit. -/
def digit? (c : Char) : Option Nat :=
  if '0' ≤ c && c ≤ '9' then some (c.toNat - 48)
  else if 'a' ≤ c && c ≤ 'f' then some (c.toNat - 87)
  else if 'A' ≤ c && c ≤ 'F' then some (c.toNat - 55)
  else none

/-- The character with a code of hexadecimal digits. -/
def coded? (digits : List Char) : Option Char := do
  let n ← digits.foldlM (fun n d => do return n * 16 + (← digit? d)) 0
  if n.isValidChar then some (Char.ofNat n) else none

/-- Reads on between double quotes. -/
def doubleFrom (text : List Char) (fold : Fold) (column : Nat) :
    List Char → Option (List Char × Cursor)
  | [] => none
  | '"' :: cs => some (fold.text.reverse ++ text, ⟨cs, column + 1⟩)
  | '\\' :: '\r' :: '\n' :: cs => doubleFrom (fold.text.reverse ++ text) ⟨[], some [], []⟩ 0 cs
  | '\\' :: 'x' :: a :: b :: cs => do
      let c ← coded? [a, b]
      doubleFrom (c :: fold.text.reverse ++ text) {} (column + 4) cs
  | '\\' :: 'u' :: a :: b :: c :: d :: cs => do
      let e ← coded? [a, b, c, d]
      doubleFrom (e :: fold.text.reverse ++ text) {} (column + 6) cs
  | '\\' :: 'U' :: a :: b :: c :: d :: e :: f :: g :: h :: cs => do
      let i ← coded? [a, b, c, d, e, f, g, h]
      doubleFrom (i :: fold.text.reverse ++ text) {} (column + 10) cs
  | '\\' :: e :: cs =>
      if isBreak e then doubleFrom (fold.text.reverse ++ text) ⟨[], some [], []⟩ 0 cs
      else
        match escape? e with
        | some c => doubleFrom (c :: fold.text.reverse ++ text) {} (column + 2) cs
        | none => none
  | '\r' :: '\n' :: cs => doubleFrom text (fold.newline '\n') 0 cs
  | c :: cs =>
      if isBreak c then doubleFrom text (fold.newline (lineEnd c)) 0 cs
      else if isSpace c then doubleFrom text (fold.space c) (column + 1) cs
      else if column == 0 && startsMarker (c :: cs) then none
      else doubleFrom (c :: fold.text.reverse ++ text) {} (column + 1) cs

/-- Reads a quoted scalar. -/
def readQuoted (c : Cursor) : Option (String × Cursor) := do
  let (text, after) ← match c.rest with
    | '\'' :: cs => singleFrom [] {} (c.column + 1) cs
    | '"' :: cs => doubleFrom [] {} (c.column + 1) cs
    | _ => none
  some (String.ofList text.reverse, after)

/-! ## Blocks of lines -/

/-- What happens to the line ends at the end of a block. -/
inductive Chomp where
  | strip
  | clip
  | keep
deriving Repr, DecidableEq, Inhabited

/-- What was read of a block. -/
structure Block where
  /-- Its text, the last character first. -/
  text : List Char := []
  /-- The end of the last line. -/
  lead : List Char := []
  /-- The ends of empty lines after it, the last first. -/
  trail : List Char := []
  /-- Whether the last line starts with a blank. -/
  spaced : Bool := false
  /-- Whether the last line is not at its end. -/
  inLine : Bool := false
deriving Repr, Inhabited

/-- Starts another line of a block. A folded block joins lines by a space, unless one of them starts
with a blank. -/
def Block.startLine (folded : Bool) (b : Block) (c : Char) : Block :=
  let joined :=
    if folded && b.lead == ['\n'] && !b.spaced && !isSpace c then
      b.trail ++ (if b.trail.isEmpty then [' '] else [])
    else b.trail ++ b.lead
  { text := c :: joined ++ b.text, spaced := isSpace c, inLine := true }

/-- Reads on in a block whose lines are indented by `indent`. -/
def blockFrom (folded : Bool) (indent : Nat) (b : Block) (column : Nat) :
    List Char → Option (Block × Cursor)
  | [] => some (b, ⟨[], column⟩)
  | '\r' :: '\n' :: cs =>
      if b.inLine then blockFrom folded indent { b with lead := ['\n'], inLine := false } 0 cs
      else blockFrom folded indent { b with trail := '\n' :: b.trail } 0 cs
  | c :: cs =>
      if isBreak c then
        if b.inLine then blockFrom folded indent { b with lead := [lineEnd c], inLine := false } 0 cs
        else blockFrom folded indent { b with trail := lineEnd c :: b.trail } 0 cs
      else if b.inLine then
        blockFrom folded indent { b with text := c :: b.text } (column + 1) cs
      else if column < indent then
        if c = ' ' then blockFrom folded indent b (column + 1) cs
        else if c = '\t' then none
        else some (b, ⟨c :: cs, column⟩)
      else blockFrom folded indent (b.startLine folded c) (column + 1) cs

/-- The deepest indentation of the empty lines at the start of a block and of the line after them. -/
def deepest (deep column : Nat) : List Char → Option Nat
  | [] => some (max deep column)
  | c :: cs =>
      if c = ' ' then deepest deep (column + 1) cs
      else if c = '\t' then none
      else if isBreak c then deepest (max deep column) 0 cs
      else some (max deep column)

/-- The marks behind the sign of a block: how its end is chomped and how deep it is indented. -/
def blockMarks (cs : List Char) : Option (Chomp × Option Nat × List Char) :=
  let chomp : List Char → Option (Chomp × List Char)
    | '-' :: cs => some (.strip, cs)
    | '+' :: cs => some (.keep, cs)
    | _ => none
  let depth : List Char → Option (Nat × List Char)
    | c :: cs => if c.isDigit then some (c.toNat - 48, cs) else none
    | [] => none
  let (how, deep, cs) :=
    match chomp cs, depth cs with
    | some (how, cs), _ =>
        match depth cs with
        | some (n, cs) => (how, some n, cs)
        | none => (how, none, cs)
    | none, some (n, cs) =>
        match chomp cs with
        | some (how, cs) => (how, some n, cs)
        | none => (.clip, some n, cs)
    | none, none => (.clip, none, cs)
  if deep == some 0 then none else some (how, deep, cs)

/-- Reads a block: its sign and marks, a comment, and the indented lines that follow. -/
def readBlock (least : Nat) (c : Cursor) : Option (String × Cursor) := do
  let (folded, cs) ← match c.rest with
    | '|' :: cs => some (false, cs)
    | '>' :: cs => some (true, cs)
    | _ => none
  let (how, deep, cs) ← blockMarks cs
  let cs := cs.dropWhile isSpace
  let cs := if cs.head? == some '#' then cs.dropWhile (!isBreak ·) else cs
  let lines ← match cs with
    | [] => some []
    | '\r' :: '\n' :: cs => some cs
    | c :: cs => if isBreak c then some cs else none
  let indent ← match deep with
    | some n => some (least - 1 + n)
    | none => (deepest 0 0 lines).map fun n => max n (max least 1)
  let (b, after) ← blockFrom folded indent {} 0 lines
  let lead := if how == .strip then [] else b.lead
  let trail := if how == .keep then b.trail else []
  some (String.ofList (trail ++ lead ++ b.text).reverse, after)

end Fiction.Yaml
