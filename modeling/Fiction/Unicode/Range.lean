/-!
# Fiction.Unicode.Range

Sets of code points as sorted lists of ranges.

* `Ranges.has` is membership.
* `Ranges.normalize` brings any list of ranges into increasing order, apart from each other.
* `Ranges.union`, `Ranges.complement` and `Ranges.intersect` are the operations on sets.
* `Ranges.ofText` reads the tables of this library: code points and ranges in hexadecimal digits,
  separated by blanks.
-/

namespace Fiction.Unicode

/-- Ranges of code points, both ends included, in increasing order and apart from each other. -/
abbrev Ranges := List (Nat × Nat)

/-- The number of a code point beyond all others. -/
def codePoints : Nat := 0x110000

/-- All code points. -/
def everything : Ranges := [(0, codePoints - 1)]

/-- The code points that are no characters of their own. -/
def surrogates : Ranges := [(0xD800, 0xDFFF)]

namespace Ranges

/-- Membership in a set of code points. The first range that does not end before the code point
decides. -/
def has : Ranges → Nat → Bool
  | [], _ => false
  | (lo, hi) :: rest, n => if n ≤ hi then decide (lo ≤ n) else has rest n

/-- Joins neighbours of a list that is sorted by the lower ends. -/
def merge : Ranges → Ranges
  | [] => []
  | r :: rest => go r rest
where
  /-- Extends the range at hand while the next one touches it. -/
  go (current : Nat × Nat) : Ranges → Ranges
    | [] => [current]
    | (lo, hi) :: rest =>
        if lo ≤ current.2 + 1 then go (current.1, max current.2 hi) rest
        else current :: go (lo, hi) rest

/-- The same code points in increasing order. -/
def normalize (r : Ranges) : Ranges :=
  merge (r.mergeSort fun a b => decide (a.1 ≤ b.1))

/-- The code points of either set. -/
def union (r s : Ranges) : Ranges :=
  normalize (r ++ s)

/-- The code points that are not in the set. -/
def complement (r : Ranges) : Ranges :=
  go 0 r
where
  /-- The gaps from a code point on. -/
  go (start : Nat) : Ranges → Ranges
    | [] => if start < codePoints then [(start, codePoints - 1)] else []
    | (lo, hi) :: rest =>
        if start < lo then (start, lo - 1) :: go (hi + 1) rest else go (hi + 1) rest

/-- The code points of both sets. -/
def intersect (r s : Ranges) : Ranges :=
  complement (union (complement r) (complement s))

/-- The code points of the first set that are not in the second. -/
def difference (r s : Ranges) : Ranges :=
  intersect r (complement s)

end Ranges

/-! ## Tables in text -/

/-- The value of a hexadecimal digit in lower case. -/
def hexDigit (c : Char) : Nat :=
  if c.isDigit then c.toNat - '0'.toNat else c.toNat - 'a'.toNat + 10

/-- The number that hexadecimal digits write. -/
def hexNumber (digits : List Char) : Nat :=
  digits.foldl (fun n c => 16 * n + hexDigit c) 0

/-- Reads a table of ranges. -/
def Ranges.ofText (s : String) : Ranges :=
  (s.toList.splitBy fun a b => a.isWhitespace == b.isWhitespace).filterMap fun word =>
    if word.all Char.isWhitespace then none
    else
      let low := word.takeWhile (· != '-')
      let high := (word.dropWhile (· != '-')).drop 1
      some (hexNumber low, hexNumber (if high.isEmpty then low else high))

end Fiction.Unicode
