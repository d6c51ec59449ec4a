/-!
# Fiction.Text.Blank

Blank characters and trimming.

* `isBlank` is the Unicode property `White_Space`.
* `trimStart`, `trimEnd` and `trim` remove blanks at the ends of a text.
* `isEmptyText` tells whether a text holds nothing but blanks.

Texts are lists of characters here, so that the functions recurse on the data.
-/

namespace Fiction.Text

/-- The code points of `White_Space`: the ASCII controls from tab to carriage return, the
space, and the separators beyond ASCII. -/
def isBlank (c : Char) : Bool :=
  let n := c.toNat
  (9 ≤ n && n ≤ 13) || n == 0x20 || n == 0x85 || n == 0xA0 || n == 0x1680 ||
    (0x2000 ≤ n && n ≤ 0x200A) || n == 0x2028 || n == 0x2029 || n == 0x202F ||
    n == 0x205F || n == 0x3000

/-- Drops the blanks a text starts with. -/
def trimStart (cs : List Char) : List Char :=
  cs.dropWhile isBlank

/-- Drops the blanks a text ends with. -/
def trimEnd (cs : List Char) : List Char :=
  (cs.reverse.dropWhile isBlank).reverse

/-- Drops the blanks at both ends of a text. -/
def trim (cs : List Char) : List Char :=
  trimEnd (trimStart cs)

/-- A text of blanks only, the empty text included. -/
def isEmptyText (cs : List Char) : Bool :=
  cs.all isBlank

/-- `trim` on strings. -/
def trimString (s : String) : String :=
  String.ofList (trim s.toList)

end Fiction.Text
