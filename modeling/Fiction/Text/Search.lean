/-!
# Fiction.Text.Search

Searching, splitting and replacing text literally.

* `occurs` tells whether a text has another one in it.
* `split` cuts a text at every occurrence of a delimiter, found from left to right without overlap.
* `join` puts pieces together with a delimiter in between.
* `replaceAll` puts another text in place of every occurrence.
-/

namespace Fiction.Text

/-- Whether `needle` stands somewhere in the text. -/
def occurs (needle : List Char) : List Char → Bool
  | [] => needle.isEmpty
  | c :: cs => needle.isPrefixOf (c :: cs) || occurs needle cs

/-- Puts a character in front of the first piece. -/
def consPiece (c : Char) : List (List Char) → List (List Char)
  | [] => [[c]]
  | piece :: rest => (c :: piece) :: rest

/-- The pieces of a text between delimiters. The number counts the characters that are left of the
delimiter at hand. -/
def splitFrom (delimiter : List Char) : Nat → List Char → List (List Char)
  | _, [] => [[]]
  | n + 1, _ :: cs => splitFrom delimiter n cs
  | 0, c :: cs =>
      if delimiter.isPrefixOf (c :: cs) then [] :: splitFrom delimiter (delimiter.length - 1) cs
      else consPiece c (splitFrom delimiter 0 cs)

/-- The pieces of a text between the occurrences of a delimiter that is not empty. There is one
piece more than there are occurrences. -/
def split (delimiter text : List Char) : List (List Char) :=
  splitFrom delimiter 0 text

/-- The pieces with a delimiter between them. -/
def join (delimiter : List Char) : List (List Char) → List Char
  | [] => []
  | [piece] => piece
  | piece :: rest => piece ++ delimiter ++ join delimiter rest

/-- The text with every occurrence of `needle` replaced. The empty text occurs in front of every
character and at the end. -/
def replaceAll (needle replacement text : List Char) : List Char :=
  if needle.isEmpty then replacement ++ text.flatMap fun c => c :: replacement
  else join replacement (split needle text)

/-- The pieces without the empty ones in between: only the first and the last may be empty. -/
def dropInner : List (List Char) → List (List Char)
  | [] => []
  | first :: rest => first :: go rest
where
  /-- What is kept behind the first piece. -/
  go : List (List Char) → List (List Char)
    | [] => []
    | [last] => [last]
    | piece :: rest => if piece.isEmpty then go rest else piece :: go rest

end Fiction.Text
