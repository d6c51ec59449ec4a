import Fiction.Json.Number

/-!
# Fiction.Json.Reader

Reading data files.

`Json.parse?` reads a text that holds one data tree and nothing else. It refuses what the format
does not allow: control characters inside quotes, escapes that name half of a surrogate pair,
leading zeros, trailing commas, and nesting deeper than `nestingLimit`.
-/

namespace Fiction.Json

/-- How deep arrays and objects may be nested. -/
def nestingLimit : Nat := 127

/-- The blanks of the format. -/
def isSpace (c : Char) : Bool :=
  c = ' ' || c = '\n' || c = '\t' || c = '\r'

/-- Drops the blanks a text starts with. -/
def skipSpace (cs : List Char) : List Char :=
  cs.dropWhile isSpace

/-! ## Quoted texts -/

/-- The value of a hexadecimal digit. -/
def hexValue? (c : Char) : Option Nat :=
  let n := c.toNat
  if 48 ≤ n && n ≤ 57 then some (n - 48)
  else if 97 ≤ n && n ≤ 102 then some (n - 87)
  else if 65 ≤ n && n ≤ 70 then some (n - 55)
  else none

/-- The code unit four hexadecimal digits name. -/
def unit? (a b c d : Char) : Option Nat := do
  some (((← hexValue? a) * 16 + (← hexValue? b)) * 256 + ((← hexValue? c) * 16 + (← hexValue? d)))

/-- The character that a letter after a backslash stands for. -/
def unescape? (c : Char) : Option Char :=
  if c = '"' || c = '\\' || c = '/' then some c
  else if c = 'b' then some (Char.ofNat 8)
  else if c = 'f' then some (Char.ofNat 12)
  else if c = 'n' then some '\n'
  else if c = 'r' then some '\r'
  else if c = 't' then some '\t'
  else none

/-- The first half of a surrogate pair. -/
def isLeading (n : Nat) : Bool :=
  0xD800 ≤ n && n ≤ 0xDBFF

/-- The second half of a surrogate pair. -/
def isTrailing (n : Nat) : Bool :=
  0xDC00 ≤ n && n ≤ 0xDFFF

/-- Reads the inside of a quoted text up to its closing quote. -/
def readText : List Char → Option (List Char × List Char)
  | [] => none
  | '"' :: rest => some ([], rest)
  | '\\' :: 'u' :: a :: b :: c :: d :: rest =>
      match unit? a b c d with
      | none => none
      | some n =>
          if isTrailing n then none
          else if isLeading n then
            match rest with
            | '\\' :: 'u' :: e :: f :: g :: h :: rest =>
                match unit? e f g h with
                | none => none
                | some m =>
                    if isTrailing m then
                      let code := 0x10000 + (n - 0xD800) * 0x400 + (m - 0xDC00)
                      (readText rest).map fun (cs, r) => (Char.ofNat code :: cs, r)
                    else none
            | _ => none
          else (readText rest).map fun (cs, r) => (Char.ofNat n :: cs, r)
  | '\\' :: c :: rest =>
      match unescape? c with
      | none => none
      | some c => (readText rest).map fun (cs, r) => (c :: cs, r)
  | c :: rest =>
      if c.toNat < 32 || c = '\\' then none else (readText rest).map fun (cs, r) => (c :: cs, r)

/-! ## Trees -/

mutual

/-- Reads one tree off the front of a text. Every step of the recursion uses up a character, so
the length of the text is fuel enough; `room` is how many levels may still be opened. -/
def readTree : (fuel room : Nat) → List Char → Option (Json × List Char)
  | 0, _, _ => none
  | fuel + 1, room, cs =>
      match skipSpace cs with
      | 'n' :: 'u' :: 'l' :: 'l' :: rest => some (.null, rest)
      | 't' :: 'r' :: 'u' :: 'e' :: rest => some (.bool true, rest)
      | 'f' :: 'a' :: 'l' :: 's' :: 'e' :: rest => some (.bool false, rest)
      | '"' :: rest => (readText rest).map fun (s, r) => (.text (String.ofList s), r)
      | '[' :: rest =>
          match room with
          | 0 => none
          | room + 1 =>
              match skipSpace rest with
              | ']' :: rest => some (.array [], rest)
              | rest => (readItems fuel room rest).map fun (items, r) => (.array items, r)
      | '\x7b' :: rest =>
          match room with
          | 0 => none
          | room + 1 =>
              match skipSpace rest with
              | '\x7d' :: rest => some (.object [], rest)
              | rest => (readMembers fuel room rest).map fun (ms, r) => (.object ms, r)
      | cs =>
          match Literal.read cs with
          | none => none
          | some (l, rest) => l.toJson?.map fun j => (j, rest)

/-- Reads the elements of an array, of which there is at least one, and its closing bracket. -/
def readItems : (fuel room : Nat) → List Char → Option (List Json × List Char)
  | 0, _, _ => none
  | fuel + 1, room, cs =>
      match readTree fuel room cs with
      | none => none
      | some (item, rest) =>
          match skipSpace rest with
          | ',' :: rest => (readItems fuel room rest).map fun (items, r) => (item :: items, r)
          | ']' :: rest => some ([item], rest)
          | _ => none

/-- Reads the members of an object, of which there is at least one, and its closing brace. -/
def readMembers : (fuel room : Nat) → List Char → Option (List (String × Json) × List Char)
  | 0, _, _ => none
  | fuel + 1, room, cs =>
      match skipSpace cs with
      | '"' :: rest =>
          match readText rest with
          | none => none
          | some (key, rest) =>
              match skipSpace rest with
              | ':' :: rest =>
                  match readTree fuel room rest with
                  | none => none
                  | some (value, rest) =>
                      let member := (String.ofList key, value)
                      match skipSpace rest with
                      | ',' :: rest =>
                          (readMembers fuel room rest).map fun (ms, r) => (member :: ms, r)
                      | '\x7d' :: rest => some ([member], rest)
                      | _ => none
              | _ => none
      | _ => none

end

/-- Reads a text that holds exactly one tree. -/
def parse? (s : String) : Option Json :=
  let cs := s.toList
  match readTree (2 * cs.length + 1) nestingLimit cs with
  | some (j, rest) => if (skipSpace rest).isEmpty then some j else none
  | none => none

end Fiction.Json
