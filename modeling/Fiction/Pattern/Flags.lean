import Fiction.Text.Blank
import Fiction.Unicode.CaseFold

/-!
# Fiction.Pattern.Flags

The modes in which a regular expression is read.

* `Flags` are the switches that an expression can turn on and off for the rest of a group.
* `Flags.skip` drops what is layout in verbose mode.
* `Flags.fold` and `Flags.negate?` adapt a character class to the mode.
-/

namespace Fiction.Pattern

open Unicode (Ranges)

/-- The switches of a regular expression. -/
structure Flags where
  /-- Letters match in either case. -/
  ignoreCase : Bool := false
  /-- `^` and `$` match at every line. -/
  multiLine : Bool := false
  /-- The dot matches line ends too. -/
  dotAll : Bool := false
  /-- Repetitions prefer fewer rounds unless they are marked. -/
  swapGreed : Bool := false
  /-- Classes and boundaries know all scripts. -/
  unicode : Bool := true
  /-- A carriage return ends lines too. -/
  crlf : Bool := false
  /-- Blanks and comments between the parts are layout. -/
  verbose : Bool := false
deriving Repr, DecidableEq

namespace Flags

/-- Drops a comment up to the end of its line. -/
def skipComment : List Char → List Char
  | [] => []
  | c :: cs => if c = '\n' then cs else skipComment cs

/-- Drops blanks and comments, with a bound on the number of comments. -/
def skipLayout : Nat → List Char → List Char
  | 0, cs => cs
  | n + 1, cs =>
      match cs.dropWhile Text.isBlank with
      | '#' :: rest => skipLayout n (skipComment rest)
      | rest => rest

/-- Drops what is layout in the current mode. -/
def skip (flags : Flags) (cs : List Char) : List Char :=
  if flags.verbose then skipLayout (cs.length + 1) cs else cs

/-- The letters of ASCII in both cases. -/
def foldAscii (r : Ranges) : Ranges :=
  let swap (lo hi : Nat) (shift : Nat → Nat) :=
    (r.intersect [(lo, hi)]).map fun (a, b) => (shift a, shift b)
  Ranges.normalize (r ++ swap 0x41 0x5A (· + 32) ++ swap 0x61 0x7A (· - 32))

/-- A class as it counts in the current mode. -/
def fold (flags : Flags) (r : Ranges) : Ranges :=
  if flags.ignoreCase then
    if flags.unicode then r.foldCase else foldAscii r
  else r

/-- What a class leaves out when `negated` holds, and the class otherwise. Without Unicode a class
must stay within ASCII, since it would match parts of characters otherwise. -/
def negate? (flags : Flags) (negated : Bool) (r : Ranges) : Option Ranges :=
  let result := if negated then r.complement else r
  if flags.unicode || result.all fun e => decide (e.2 < 128) then some result else none

end Flags

end Fiction.Pattern
