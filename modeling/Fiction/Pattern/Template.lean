import Fiction.Decimal.Natural

/-!
# Fiction.Pattern.Template

Replacement templates.

* `Template.pieces` reads a template as authors write it, with `\1` for the text of the first
  group.
* `Template.read` is its meaning: the pieces with the texts of groups filled in.
* `Template.dollarForm` writes the pieces in the form in which dollar signs mark groups.
* `Template.expand` fills in a template in that form.
-/

namespace Fiction.Template

/-- A piece of a template. -/
inductive Piece where
  /-- A character that stands for itself. -/
  | char (c : Char)
  /-- The text of the group whose number these digits write. -/
  | group (digits : List Char)
deriving Repr, DecidableEq

/-- What a backslash in front of a character other than a digit stands for. -/
def escaped? : Char → Option Char
  | 'n' => some '\n'
  | 't' => some '\t'
  | '\\' => some '\\'
  | _ => none

theorem length_dropWhile_le (p : Char → Bool) (cs : List Char) :
    (cs.dropWhile p).length ≤ cs.length :=
  (List.dropWhile_sublist p).length_le

/-- The pieces of a template as authors write it. A backslash in front of digits refers to a
group, and one that starts no escape stands for itself. -/
def pieces : List Char → List Piece
  | [] => []
  | ['\\'] => [.char '\\']
  | '\\' :: c :: cs =>
      if c.isDigit then .group (c :: cs.takeWhile Char.isDigit) :: pieces (cs.dropWhile Char.isDigit)
      else
        match escaped? c with
        | some d => .char d :: pieces cs
        | none => .char '\\' :: pieces (c :: cs)
  | c :: cs => .char c :: pieces cs
termination_by cs => cs.length
decreasing_by
  all_goals simp only [List.length_cons]
  · have := length_dropWhile_le Char.isDigit cs
    omega
  all_goals omega

/-- A piece with the texts of groups filled in. -/
def Piece.fill (group : Nat → List Char) : Piece → List Char
  | .char c => [c]
  | .group digits => group (Decimal.ofDigits digits)

/-- The text that a template stands for. -/
def read (group : Nat → List Char) (cs : List Char) : List Char :=
  (pieces cs).flatMap (Piece.fill group)

/-! ## The form with dollar signs -/

/-- A piece in the form with dollar signs, in which a dollar sign for itself is written twice. -/
def Piece.write : Piece → List Char
  | .char c => if c = '$' then ['$', '$'] else [c]
  | .group digits => '$' :: '\x7b' :: digits ++ ['\x7d']

/-- A template in the form with dollar signs. -/
def dollarForm (cs : List Char) : List Char :=
  (pieces cs).flatMap Piece.write

/-- Fills in a template in the form with dollar signs. A dollar sign that starts neither another
dollar sign nor a group stands for itself. -/
def expand (group : Nat → List Char) : List Char → List Char
  | [] => []
  | '$' :: '$' :: cs => '$' :: expand group cs
  | '$' :: '\x7b' :: cs =>
      match cs.takeWhile Char.isDigit, _h : cs.dropWhile Char.isDigit with
      | d :: ds, '\x7d' :: rest => group (Decimal.ofDigits (d :: ds)) ++ expand group rest
      | _, _ => '$' :: '\x7b' :: expand group cs
  | c :: cs => c :: expand group cs
termination_by cs => cs.length
decreasing_by
  all_goals simp only [List.length_cons]
  · omega
  · have := length_dropWhile_le Char.isDigit cs
    simp only [_h, List.length_cons] at this
    omega
  all_goals omega

end Fiction.Template
