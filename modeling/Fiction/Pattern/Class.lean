import Fiction.Pattern.Basic
import Fiction.Pattern.Flags
import Fiction.Unicode.Category
import Fiction.Unicode.Property
import Fiction.Unicode.Script

/-!
# Fiction.Pattern.Class

Character classes and escapes of regular expressions.

* `Part` is what an escape can stand for.
* `readEscape` reads an escape after its backslash.
* `readClass` reads a class in brackets, with nested classes and the operations on sets.

All readers return what they read and the text behind it, or nothing when the text is no regular
expression.
-/

namespace Fiction.Pattern

open Unicode (Ranges)

/-- What a single character or an escape stands for. -/
inductive Part where
  /-- A character; `byte` tells that it was written as two hexadecimal digits. -/
  | literal (c : Char) (byte : Bool)
  /-- A class. -/
  | set (r : Ranges)
  /-- A condition on the position. -/
  | look (l : Look)
deriving Repr

/-! ## Classes with names -/

/-- The classes that have names in brackets. -/
def asciiClass? : String → Option Ranges
  | "alnum" => some [(0x30, 0x39), (0x41, 0x5A), (0x61, 0x7A)]
  | "alpha" => some [(0x41, 0x5A), (0x61, 0x7A)]
  | "ascii" => some [(0, 0x7F)]
  | "blank" => some [(0x09, 0x09), (0x20, 0x20)]
  | "cntrl" => some [(0, 0x1F), (0x7F, 0x7F)]
  | "digit" => some [(0x30, 0x39)]
  | "graph" => some [(0x21, 0x7E)]
  | "lower" => some [(0x61, 0x7A)]
  | "print" => some [(0x20, 0x7E)]
  | "punct" => some [(0x21, 0x2F), (0x3A, 0x40), (0x5B, 0x60), (0x7B, 0x7E)]
  | "space" => some [(0x09, 0x0D), (0x20, 0x20)]
  | "upper" => some [(0x41, 0x5A)]
  | "word" => some [(0x30, 0x39), (0x41, 0x5A), (0x5F, 0x5F), (0x61, 0x7A)]
  | "xdigit" => some [(0x30, 0x39), (0x41, 0x46), (0x61, 0x66)]
  | _ => none

/-- The class of digits, blanks or word characters. -/
def shorthand (flags : Flags) (letter : Char) : Ranges :=
  match letter, flags.unicode with
  | 'd', true => Unicode.categoryRanges "Nd"
  | 'd', false => [(0x30, 0x39)]
  | 's', true => Unicode.blankRanges
  | 's', false => [(0x09, 0x0D), (0x20, 0x20)]
  | _, true => Unicode.wordRanges
  | _, false => [(0x30, 0x39), (0x41, 0x5A), (0x5F, 0x5F), (0x61, 0x7A)]

/-- The name of a property without case, blanks, hyphens, underscores and a leading "is". -/
def looseName (name : List Char) : String :=
  let lower := name.map Char.toLower
  let (marked, body) :=
    match lower with
    | 'i' :: 's' :: rest => (true, rest)
    | _ => (false, lower)
  let kept := body.filter fun c => !(c = ' ' || c = '_' || c = '-') && decide (c.toNat < 128)
  if marked && kept == ['c'] then "isc" else String.ofList kept

/-- The class of a property, category or script by its name alone. -/
def namedClass? (name : List Char) : Option Ranges :=
  let loose := looseName name
  let plain := (Unicode.category? loose).or (Unicode.script? loose)
  if loose == "cf" || loose == "sc" || loose == "lc" then plain
  else (Unicode.property? loose).or plain

/-- The class of the characters for which a property has a value. -/
def valuedClass? (name value : List Char) : Option Ranges :=
  match looseName name with
  | "gc" | "generalcategory" => Unicode.category? (looseName value)
  | "sc" | "script" => Unicode.script? (looseName value)
  | _ => none

/-- Splits a text at the first occurrence of a mark. -/
def splitAtMark? (mark : List Char) : List Char → Option (List Char × List Char)
  | [] => none
  | c :: cs =>
      if mark.isPrefixOf (c :: cs) then some ([], (c :: cs).drop mark.length)
      else (splitAtMark? mark cs).map fun (before, after) => (c :: before, after)

/-- The class in the braces of a property escape, and whether it is to be negated once more. -/
def bracedClass? (name : List Char) : Option (Ranges × Bool) :=
  match splitAtMark? ['!', '='] name with
  | some (property, value) => (valuedClass? property value).map fun r => (r, true)
  | none =>
      match (splitAtMark? [':'] name).or (splitAtMark? ['='] name) with
      | some (property, value) => (valuedClass? property value).map fun r => (r, false)
      | none => (namedClass? name).map fun r => (r, false)

/-- Reads up to a closing brace, without layout. -/
def readBraced (flags : Flags) : Nat → List Char → Option (List Char × List Char)
  | 0, _ => none
  | n + 1, cs =>
      match flags.skip cs with
      | [] => none
      | '}' :: rest => some ([], rest)
      | c :: rest => (readBraced flags n rest).map fun (name, after) => (c :: name, after)

/-- Reads the class of a property escape, after its letter. -/
def readProperty (flags : Flags) (negated : Bool) (cs : List Char) : Option (Ranges × List Char) :=
  if !flags.unicode then none
  else
    let resolve (r : Ranges) (flip : Bool) (rest : List Char) :=
      (flags.negate? (negated != flip) (flags.fold r)).map fun r => (r, rest)
    match flags.skip cs with
    | [] => none
    | '{' :: rest => do
        let (name, after) ← readBraced flags (rest.length + 1) rest
        let (r, flip) ← bracedClass? name
        resolve r flip after
    | '\\' :: _ => none
    | c :: rest => do
        let r ← namedClass? [c]
        resolve r false (flags.skip rest)

/-! ## Escapes -/

/-- A hexadecimal digit in either case. -/
def isHex (c : Char) : Bool :=
  c.isDigit || ('a' ≤ c && c ≤ 'f') || ('A' ≤ c && c ≤ 'F')

/-- The character with a number, if there is one. -/
def charOfNumber? (n : Nat) : Option Char :=
  if n.isValidChar then some (Char.ofNat n) else none

/-- The character whose number the digits write. -/
def charOfDigits? (digits : List Char) : Option Char :=
  charOfNumber? (Unicode.hexNumber (digits.map Char.toLower))

/-- Reads a fixed number of hexadecimal digits. -/
def readHexFixed (flags : Flags) : Nat → List Char → Option (List Char × List Char)
  | 0, cs => some ([], cs)
  | n + 1, c :: cs =>
      if isHex c then
        (readHexFixed flags n (flags.skip cs)).map fun (digits, rest) => (c :: digits, rest)
      else none
  | _ + 1, [] => none

/-- Reads a character by its number, after the letter of the escape. -/
def readHex (flags : Flags) (letter : Char) (cs : List Char) : Option (Part × List Char) :=
  match flags.skip cs with
  | '{' :: rest => do
      let (digits, after) ← readBraced flags (rest.length + 1) rest
      if digits.isEmpty || !digits.all isHex || decide (digits.length > 40) then none
      else
        let c ← charOfDigits? digits
        some (.literal c false, flags.skip after)
  | rest => do
      let (digits, after) ←
        readHexFixed flags (if letter = 'x' then 2 else if letter = 'u' then 4 else 8) rest
      let c ← charOfDigits? digits
      some (.literal c (letter = 'x'), after)

/-- The characters with a meaning of their own. -/
def isMeta (c : Char) : Bool :=
  "\\.+*?()|[]\x7b\x7d^$#&-~".toList.contains c

/-- The word in the braces after a word boundary. Braces that hold something else are left to be
read as a repetition. -/
def readBoundary (flags : Flags) (cs : List Char) : Option (Look × List Char) :=
  let isPart (c : Char) := c.isAlpha || c = '-'
  match cs with
  | '{' :: rest =>
      match flags.skip rest with
      | [] => none
      | c :: after =>
          if isPart c then do
            let (name, behind) ← readBraced flags (rest.length + 1) (c :: after)
            match String.ofList name with
            | "start" => some (.wordStart flags.unicode, behind)
            | "end" => some (.wordStop flags.unicode, behind)
            | "start-half" => some (.wordStartHalf flags.unicode, behind)
            | "end-half" => some (.wordStopHalf flags.unicode, behind)
            | _ => none
          else some (.boundary flags.unicode, cs)
  | _ => some (.boundary flags.unicode, cs)

/-- Reads an escape, after its backslash. -/
def readEscape (flags : Flags) (cs : List Char) : Option (Part × List Char) :=
  match cs with
  | [] => none
  | c :: rest =>
      if c.isDigit then none
      else if c = 'x' || c = 'u' || c = 'U' then readHex flags c rest
      else if c = 'p' || c = 'P' then
        (readProperty flags (c = 'P') rest).map fun (r, after) => (.set r, after)
      else if c = 'd' || c = 's' || c = 'w' then some (.set (shorthand flags c), rest)
      else if c = 'D' || c = 'S' || c = 'W' then
        (flags.negate? true (shorthand flags c.toLower)).map fun r => (.set r, rest)
      else
        let char (n : Nat) := some (Part.literal (Char.ofNat n) false, rest)
        match c with
        | 'a' => char 7
        | 'f' => char 12
        | 't' => char 9
        | 'n' => char 10
        | 'r' => char 13
        | 'v' => char 11
        | 'A' => some (.look .start, rest)
        | 'z' => some (.look .stop, rest)
        | 'b' => (readBoundary flags rest).map fun (l, after) => (.look l, after)
        | 'B' => some (.look (.interior flags.unicode), rest)
        | '<' => some (.look (.wordStart flags.unicode), rest)
        | '>' => some (.look (.wordStop flags.unicode), rest)
        | _ =>
            if isMeta c || (decide (c.toNat < 128) && !c.isAlphanum) then
              some (.literal c false, rest)
            else none

/-! ## Classes in brackets -/

/-- The operations on sets in brackets. -/
inductive SetOperation where
  | both
  | butNot
  | onlyOne
deriving Repr, DecidableEq

/-- The result of an operation on sets. -/
def SetOperation.apply (r s : Ranges) : SetOperation → Ranges
  | both => r.intersect s
  | butNot => r.difference s
  | onlyOne => (r.union s).difference (r.intersect s)

/-- A class that is being read. -/
structure ClassLevel where
  /-- Whether it matches what it does not list. -/
  negated : Bool
  /-- The operation that waits for its right side, with its left side. -/
  pending : Option (SetOperation × Ranges)
  /-- What was listed since the last operation. -/
  items : Ranges

namespace ClassLevel

/-- What the class lists so far, with the operation that was waiting carried out. -/
def listed (flags : Flags) (level : ClassLevel) : Ranges :=
  match level.pending with
  | none => level.items.normalize
  | some (op, left) => op.apply (flags.fold left) (flags.fold level.items.normalize)

/-- Adds members. -/
def add (level : ClassLevel) (r : Ranges) : ClassLevel :=
  { level with items := r ++ level.items }

/-- Starts the right side of an operation. -/
def operate (flags : Flags) (level : ClassLevel) (op : SetOperation) : ClassLevel :=
  { level with pending := some (op, level.listed flags), items := [] }

/-- The set that a finished class stands for. -/
def close? (flags : Flags) (level : ClassLevel) : Option Ranges :=
  flags.negate? level.negated (flags.fold (level.listed flags))

end ClassLevel

/-- Reads a class with a name, after its opening bracket. -/
def readNamedClass (flags : Flags) (cs : List Char) : Option (Option Ranges × List Char) :=
  match cs with
  | ':' :: rest =>
      let (negated, rest) :=
        match rest with
        | '^' :: after => (true, after)
        | _ => (false, rest)
      let name := rest.takeWhile (· != ':')
      match rest.dropWhile (· != ':'), asciiClass? (String.ofList name) with
      | ':' :: ']' :: after, some r => some (flags.negate? negated (flags.fold r), after)
      | _, _ => none
  | _ => none

/-- Reads the marks at the start of a class, after its opening bracket: the sign of negation,
hyphens, and a closing bracket in first place, which stands for itself. -/
def openClass (flags : Flags) (cs : List Char) : Option (ClassLevel × List Char) :=
  let start := flags.skip cs
  let (negated, start) :=
    match start with
    | '^' :: after => (true, flags.skip after)
    | _ => (false, start)
  let (hyphens, start) := hyphens start.length start
  let level : ClassLevel := ⟨negated, none, if hyphens then [(0x2D, 0x2D)] else []⟩
  match start with
  | [] => none
  | ']' :: after =>
      if hyphens then some (level, start)
      else
        match flags.skip after with
        | [] => none
        | after => some (level.add [(0x5D, 0x5D)], after)
  | _ => some (level, start)
where
  /-- Drops hyphens and tells whether there were any. -/
  hyphens : Nat → List Char → Bool × List Char
    | n + 1, '-' :: after => (true, (hyphens n (flags.skip after)).2)
    | _, cs => (false, cs)

/-- Reads a single member of a class. -/
def readMember (flags : Flags) (cs : List Char) : Option (Part × List Char) :=
  match cs with
  | [] => none
  | '\\' :: rest => readEscape flags rest
  | c :: rest => some (.literal c false, rest)

/-- The code point of a character in a class. Without Unicode only ASCII and bytes written in
hexadecimal digits have one. -/
def memberPoint? (flags : Flags) (c : Char) (byte : Bool) : Option Nat :=
  if flags.unicode || byte || decide (c.toNat < 128) then some c.toNat else none

/-- A single member as a set. -/
def memberSet? (flags : Flags) : Part → Option Ranges
  | .literal c byte => (memberPoint? flags c byte).map fun n => [(n, n)]
  | .set r => some r
  | .look _ => none

/-- The first character that is not layout after the one at hand. -/
def peek (flags : Flags) (cs : List Char) : Option Char :=
  (flags.skip (cs.drop 1)).head?

/-- Reads a member of a class or a range of characters. -/
def readRange (flags : Flags) (cs : List Char) : Option (Ranges × List Char) := do
  let (first, rest) ← readMember flags cs
  let rest := flags.skip rest
  match rest with
  | [] => none
  | '-' :: after =>
      if peek flags rest = some ']' || peek flags rest = some '-' then
        return (← memberSet? flags first, rest)
      else
        let (second, rest) ← readMember flags (flags.skip after)
        match first, second with
        | .literal a x, .literal b y =>
            let low ← memberPoint? flags a x
            let high ← memberPoint? flags b y
            if low ≤ high then some ([(low, high)], rest) else none
        | _, _ => none
  | _ => return (← memberSet? flags first, rest)

/-- Reads a class up to the bracket that closes the outermost level. The first argument bounds the
number of steps; every step consumes a character. -/
def readLevels (flags : Flags) :
    Nat → ClassLevel → List ClassLevel → List Char → Option (Ranges × List Char)
  | 0, _, _, _ => none
  | n + 1, level, outer, cs =>
      let cs := flags.skip cs
      match cs with
      | [] => none
      | '[' :: rest =>
          match readNamedClass flags rest with
          | some (some r, after) => readLevels flags n (level.add r) outer after
          | some (none, _) => none
          | none => do
              let (inner, after) ← openClass flags rest
              readLevels flags n inner (level :: outer) after
      | ']' :: rest => do
          let r ← level.close? flags
          match outer with
          | [] => some (r, rest)
          | parent :: outer => readLevels flags n (parent.add r) outer rest
      | '&' :: '&' :: rest => readLevels flags n (level.operate flags .both) outer rest
      | '-' :: '-' :: rest => readLevels flags n (level.operate flags .butNot) outer rest
      | '~' :: '~' :: rest => readLevels flags n (level.operate flags .onlyOne) outer rest
      | _ => do
          let (r, after) ← readRange flags cs
          readLevels flags n (level.add r) outer after

/-- Reads a class, after its opening bracket. -/
def readClass (flags : Flags) (cs : List Char) : Option (Ranges × List Char) := do
  let (level, rest) ← openClass flags cs
  readLevels flags (rest.length + 1) level [] rest

end Fiction.Pattern
