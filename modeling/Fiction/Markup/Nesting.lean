import Fiction.Text.Fragment
import Fiction.Text.Search

/-!
# Fiction.Markup.Nesting

Brackets, quotes and escapes in markup.

* `Nesting` says how deep in brackets, quotes and escapes a position of a text is.
* `Bracketing` says which characters count, and `Bracketing.step` moves over one character.
* `Bracketing.splitTop` cuts a text at the delimiters that are outside of all brackets, quotes and
  escapes, and `Fragment.splitTop` does so with positions.

Arguments of calls, the extent of calls and the parts of links follow different bracketings.
-/

namespace Fiction

/-- The brackets, quotes and escapes that are open at a position. -/
structure Nesting where
  /-- The number of open brackets. -/
  depth : Nat
  /-- Inside a quoted text. -/
  quoted : Bool
  /-- Directly behind a backslash. -/
  escaped : Bool
deriving Repr, DecidableEq, Inhabited

namespace Nesting

/-- Outside of everything. -/
def top : Nesting := ⟨0, false, false⟩

/-- Whether the next character counts as it stands: neither quoted nor escaped. -/
def isBare (n : Nesting) : Bool := !n.quoted && !n.escaped

/-- Whether a position is outside of everything. -/
def isTop (n : Nesting) : Bool := n.depth == 0 && n.isBare

end Nesting

/-- The characters that count as brackets, and where quotes count. -/
structure Bracketing where
  /-- The brackets that open. -/
  opens : List Char
  /-- The brackets that close. -/
  closes : List Char
  /-- Whether quotes count outside of brackets. -/
  quotesOutside : Bool
deriving Repr, DecidableEq

namespace Bracketing

/-- Arguments are separated outside of brackets of every kind. -/
def argument : Bracketing := ⟨['(', '[', '{'], [')', ']', '}'], true⟩

/-- A call extends to the parenthesis that closes it. -/
def call : Bracketing := ⟨['('], [')'], true⟩

/-- In a link quotes count inside of calls only, so a label may have one. -/
def link : Bracketing := ⟨['('], [')'], false⟩

/-- The nesting behind a character. A bracket that closes nothing changes nothing. -/
def step (b : Bracketing) (n : Nesting) (c : Char) : Nesting :=
  if n.escaped then { n with escaped := false }
  else if c = '\\' then { n with escaped := true }
  else if n.quoted then { n with quoted := c != '"' }
  else if c = '"' then { n with quoted := b.quotesOutside || decide (0 < n.depth) }
  else if b.opens.contains c then { n with depth := n.depth + 1 }
  else if b.closes.contains c then { n with depth := n.depth - 1 }
  else n

/-- The nesting behind a text. -/
def after (b : Bracketing) (n : Nesting) (cs : List Char) : Nesting :=
  cs.foldl b.step n

/-- A character that can be no delimiter because it has a meaning for the nesting. -/
def isSpecial (b : Bracketing) (c : Char) : Bool :=
  c == '\\' || c == '"' || b.opens.contains c || b.closes.contains c

/-- The parts of a text between the delimiters outside of everything. -/
def splitTop (b : Bracketing) (delimiter : Char) : Nesting → List Char → List (List Char)
  | _, [] => [[]]
  | n, c :: cs =>
      if n.isTop && c == delimiter && !b.isSpecial c then [] :: splitTop b delimiter n cs
      else Text.consPiece c (splitTop b delimiter (b.step n c) cs)

end Bracketing

namespace Fragment

/-- Gives parts that follow each other, with a delimiter in between, their positions. -/
def place (delimiter : Char) : Nat → List (List Char) → List Fragment
  | _, [] => []
  | offset, part :: rest =>
      ⟨offset, part⟩ :: place delimiter (offset + Text.byteLength part + delimiter.utf8Size) rest

/-- The parts of a fragment between the delimiters outside of everything. -/
def splitTop (b : Bracketing) (delimiter : Char) (f : Fragment) : List Fragment :=
  place delimiter f.offset (b.splitTop delimiter .top f.chars)

/-- The fragment behind a number of characters. -/
def drop (f : Fragment) (n : Nat) : Fragment :=
  ⟨f.offset + Text.byteLength (f.chars.take n), f.chars.drop n⟩

end Fragment

end Fiction
