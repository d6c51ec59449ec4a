import Fiction.Decimal.Natural
import Fiction.Pattern.Class
import Fiction.Text.Letter

/-!
# Fiction.Pattern.Reader

Reading regular expressions.

* `Pattern.read?` turns a text into a `Pattern`, or into nothing if the text is no regular
  expression, is nested too deeply or would take too much room.

The reader works on one item at a time and keeps the groups that are still open on a stack; every
step consumes a character, so the length of the text bounds their number.
-/

namespace Fiction.Pattern

open Unicode (Ranges)

/-- A part of a sequence with its height as a tree. -/
structure Item where
  /-- What it matches. -/
  pattern : Pattern
  /-- The number of levels below it, itself included unless it is a leaf. -/
  height : Nat
  /-- Whether a repetition may follow: not after a change of flags. -/
  repeatable : Bool

/-- The branches and items of a group that is being read, the latest first. -/
structure Level where
  /-- The branches that are complete. -/
  branches : List Item
  /-- The items of the branch at hand. -/
  items : List Item

/-- A group that is still open around the one at hand. -/
structure Enclosing where
  /-- What was read of it so far. -/
  level : Level
  /-- The flags to return to. -/
  flags : Flags
  /-- The number of the inner group, if it captures. -/
  capture : Option Nat

/-- The state of reading. -/
structure Reader where
  /-- The text that is left. -/
  rest : List Char
  /-- The flags in force. -/
  flags : Flags
  /-- The group at hand. -/
  level : Level
  /-- The groups around it, the innermost first. -/
  outer : List Enclosing
  /-- The number of capturing groups so far. -/
  captures : Nat
  /-- The names of groups so far. -/
  names : List (List Char)

/-! ## Putting items together -/

/-- A sequence of items, given from the last to the first. -/
def sequence (items : List Item) : Item :=
  match items with
  | [] => ⟨.empty, 0, true⟩
  | [item] => item
  | last :: before =>
      ⟨before.foldl (fun p item => .seq item.pattern p) last.pattern,
        1 + items.foldl (fun h item => max h item.height) 0, true⟩

/-- The branches of a group, given from the last to the first. -/
def branching (branches : List Item) : Item :=
  match branches with
  | [] => ⟨.empty, 0, true⟩
  | [item] => item
  | last :: before =>
      ⟨before.foldl (fun p item => .either item.pattern p) last.pattern,
        1 + branches.foldl (fun h item => max h item.height) 0, true⟩

namespace Level

/-- Nothing read yet. -/
def start : Level := ⟨[], []⟩

/-- Adds an item to the branch at hand. -/
def push (level : Level) (item : Item) : Level :=
  { level with items := item :: level.items }

/-- Ends the branch at hand. -/
def split (level : Level) : Level :=
  ⟨sequence level.items :: level.branches, []⟩

/-- The whole group. -/
def finish (level : Level) : Item :=
  branching level.split.branches

end Level

/-! ## Items -/

/-- A character as a pattern. -/
def literal? (flags : Flags) (c : Char) (byte : Bool) : Option Pattern :=
  let n := c.toNat
  if flags.unicode then some (.one (flags.fold [(n, n)]))
  else if byte && decide (128 ≤ n) then none
  else if n < 128 then some (.one (flags.fold [(n, n)]))
  else some (.one [(n, n)])

/-- A part as a pattern. -/
def ofPart? (flags : Flags) : Part → Option Pattern
  | .literal c byte => literal? flags c byte
  | .set r => some (.one r)
  | .look l => some (.look l)

/-- The dot. -/
def dot? (flags : Flags) : Option Pattern :=
  if !flags.unicode then none
  else if flags.dotAll then some (.one Unicode.everything)
  else if flags.crlf then some (.one (Ranges.complement [(0x0A, 0x0A), (0x0D, 0x0D)]))
  else some (.one (Ranges.complement [(0x0A, 0x0A)]))

/-- Reads the digits of a repetition. Blanks around them do not count. -/
def readCount (flags : Flags) (cs : List Char) : Option (Option Nat × List Char) :=
  let (digits, rest) := digits cs.length (cs.dropWhile Text.isBlank)
  let rest := flags.skip (rest.dropWhile Text.isBlank)
  if digits.isEmpty then some (none, rest)
  else
    let n := Decimal.ofDigits digits
    if n < UInt32.size then some (some n, rest) else none
where
  /-- The digits and what follows them. -/
  digits : Nat → List Char → List Char × List Char
    | n + 1, c :: cs =>
        if c.isDigit then
          let (more, rest) := digits n (flags.skip cs)
          (c :: more, rest)
        else ([], c :: cs)
    | _, cs => ([], cs)

/-- Reads a repetition in braces, after the opening brace: the least and the greatest number of
rounds. -/
def readBounds (flags : Flags) (cs : List Char) : Option (Nat × Option Nat × List Char) := do
  let (low?, rest) ← readCount flags (flags.skip cs)
  match rest with
  | ',' :: after =>
      let low ← low?
      match flags.skip after with
      | '}' :: after => some (low, none, after)
      | after =>
          let (high?, rest) ← readCount flags after
          let high ← high?
          match rest with
          | '}' :: after => if low ≤ high then some (low, some high, after) else none
          | _ => none
  | '}' :: after =>
      let low ← low?
      some (low, some low, after)
  | _ => none

/-- Reads the switches of a group up to the colon or parenthesis behind them. -/
def readSwitches (flags : Flags) :
    List Char → (on : Bool) → (last : Bool) → (seen : List Char) → Option (Flags × List Char)
  | [], _, _, _ => none
  | c :: cs, on, last, seen =>
      if c = ':' || c = ')' then
        if last then none else some (flags, c :: cs)
      else if c = '-' then
        if on then readSwitches flags cs false true seen else none
      else if seen.contains c then none
      else
        let next (f : Flags) := readSwitches f cs on false (c :: seen)
        match c with
        | 'i' => next { flags with ignoreCase := on }
        | 'm' => next { flags with multiLine := on }
        | 's' => next { flags with dotAll := on }
        | 'U' => next { flags with swapGreed := on }
        | 'u' => next { flags with unicode := on }
        | 'R' => next { flags with crlf := on }
        | 'x' => next { flags with verbose := on }
        | _ => none

/-- A character that the name of a group may have after its first one. -/
def isNamePart (c : Char) : Bool :=
  c = '_' || c = '.' || c = '[' || c = ']' || Text.isAlphanumeric c

/-- Reads the name of a group up to its closing bracket. -/
def readName (cs : List Char) : Option (List Char × List Char) :=
  let name := cs.takeWhile (· != '>')
  match name, cs.dropWhile (· != '>') with
  | first :: others, '>' :: rest =>
      if (first = '_' || Text.isLetter first) && others.all isNamePart then some (name, rest)
      else none
  | _, _ => none

namespace Reader

/-- Adds an item. -/
def push (r : Reader) (p : Pattern) (rest : List Char) : Reader :=
  { r with rest, level := r.level.push ⟨p, 0, true⟩ }

/-- Starts a group inside the one at hand. -/
def enter (r : Reader) (flags : Flags) (capture : Option Nat) (rest : List Char) : Reader :=
  { r with rest, flags, level := .start, outer := ⟨r.level, r.flags, capture⟩ :: r.outer }

/-- Ends the group at hand. -/
def leave? (r : Reader) (rest : List Char) : Option Reader :=
  match r.outer with
  | [] => none
  | around :: outer =>
      let whole := r.level.finish
      let pattern :=
        match around.capture with
        | some number => .group number whole.pattern
        | none => whole.pattern
      some { r with
        rest, flags := around.flags, outer
        level := around.level.push ⟨pattern, whole.height + 1, true⟩ }

/-- Starts a group, after its opening parenthesis. -/
def group? (r : Reader) (cs : List Char) : Option Reader :=
  let named (cs : List Char) : Option Reader := do
    let (name, rest) ← readName cs
    if r.names.contains name then none
    else
      let r := { r with captures := r.captures + 1, names := name :: r.names }
      some (r.enter r.flags (some r.captures) rest)
  match r.flags.skip cs with
  | '?' :: '=' :: _ | '?' :: '!' :: _ | '?' :: '<' :: '=' :: _ | '?' :: '<' :: '!' :: _ => none
  | '?' :: 'P' :: '<' :: rest => named rest
  | '?' :: '<' :: rest => named rest
  | '?' :: rest => do
      let (flags, after) ← readSwitches r.flags rest true false []
      match after with
      | ':' :: behind => some (r.enter flags none behind)
      | _ :: behind =>
          if rest.head? = some ')' then none
          else some { r with rest := behind, flags, level := r.level.push ⟨.empty, 0, false⟩ }
      | [] => none
  | rest =>
      let r := { r with captures := r.captures + 1 }
      some (r.enter r.flags (some r.captures) rest)

/-- Repeats the last item. -/
def repeat? (r : Reader) (low : Nat) (high : Option Nat) (rest : List Char) : Option Reader :=
  match r.level.items with
  | [] => none
  | item :: before =>
      if item.repeatable then
        let (lazy, rest) :=
          match rest with
          | '?' :: after => (true, after)
          | _ => (false, rest)
        let greedy := lazy == r.flags.swapGreed
        some { r with
          rest
          level := { r.level with
            items := ⟨.many item.pattern low high greedy, item.height + 1, true⟩ :: before } }
      else none

/-- Reads one item, operator or mark of a group. -/
def step? (r : Reader) : Option Reader :=
  match r.rest with
  | [] => none
  | c :: cs =>
      match c with
      | '(' => r.group? cs
      | ')' => r.leave? cs
      | '|' => some { r with rest := cs, level := r.level.split }
      | '[' => do
          let (set, rest) ← readClass r.flags cs
          some { r with rest, level := r.level.push ⟨.one set, 1, true⟩ }
      | '?' => r.repeat? 0 (some 1) cs
      | '*' => r.repeat? 0 none cs
      | '+' => r.repeat? 1 none cs
      | '{' => do
          let (low, high, rest) ← readBounds r.flags cs
          r.repeat? low high (r.flags.skip rest)
      | '\\' => do
          let (part, rest) ← readEscape r.flags cs
          r.push (← ofPart? r.flags part) rest
      | '.' => do r.push (← dot? r.flags) cs
      | '^' => r.push (.look (if r.flags.multiLine then .lineStart r.flags.crlf else .start)) cs
      | '$' => r.push (.look (if r.flags.multiLine then .lineStop r.flags.crlf else .stop)) cs
      | c => do r.push (← literal? r.flags c false) cs

/-- Reads item after item. The first argument bounds their number. -/
def run? : Nat → Reader → Option Reader
  | 0, _ => none
  | n + 1, r =>
      let r := { r with rest := r.flags.skip r.rest }
      if r.rest.isEmpty then some r else r.step?.bind (run? n)

end Reader

/-- The greatest height of a pattern that is accepted. -/
def heightLimit : Nat := 250

/-- The regular expression that a text writes. -/
def read? (s : String) : Option Pattern := do
  let cs := s.toList
  let r ← Reader.run? (cs.length + 1) ⟨cs, {}, .start, [], 0, []⟩
  if r.outer.isEmpty then
    let whole := r.level.finish
    if whole.height ≤ heightLimit ∧ whole.pattern.weight ≤ weightLimit then some whole.pattern
    else none
  else none

end Fiction.Pattern
