/-!
# Fiction.Yaml.Basic

The flat part of YAML that settings are written in, and places in its text.

* `Document` is a list of keys with scalars or lists of scalars. Deeper structure has no meaning in
  settings, so it has no place in the type.
* `Cursor` is a place in a text; `Cursor.next` moves it to the next token, over blanks, comments and
  line ends.
* `Fold` collects what stands between two words of a text that runs over several lines.
-/

namespace Fiction.Yaml

/-- A single value. -/
structure Scalar where
  /-- Whether it is written without quotes, on the lines of its key. -/
  plain : Bool
  /-- The tag in front of it. -/
  tag : Option String
  /-- Its text. -/
  text : String
deriving Repr, DecidableEq, Inhabited

/-- The value of a key. -/
inductive Item where
  | scalar (value : Scalar)
  | list (values : List Scalar)
deriving Repr, DecidableEq, Inhabited

/-- The keys of a text with their values, in the order they are written. -/
abbrev Document := List (String × Item)

/-- A scalar that is not written at all. -/
def Scalar.missing (tag : Option String) : Scalar :=
  ⟨true, tag, ""⟩

/-! ## Characters -/

/-- The ends of lines. -/
def isBreak (c : Char) : Bool :=
  c = '\n' || c = '\r' || c = '\u0085' || c = '\u2028' || c = '\u2029'

/-- The blanks inside a line. -/
def isSpace (c : Char) : Bool :=
  c = ' ' || c = '\t'

/-- How the end of a line reads: all but the two separators are one newline. -/
def lineEnd (c : Char) : Char :=
  if c = '\u2028' || c = '\u2029' then c else '\n'

/-- Nothing, a blank or the end of a line comes next. -/
def endsWord : List Char → Bool
  | [] => true
  | c :: _ => isSpace c || isBreak c

/-- The characters that a text may hold. -/
def isAllowed (c : Char) : Bool :=
  let n := c.toNat
  n = 9 || n = 10 || n = 13 || (0x20 ≤ n && n ≤ 0x7E) || n = 0x85 || (0xA0 ≤ n && n ≤ 0xD7FF) ||
    (0xE000 ≤ n && n ≤ 0xFFFD) || 0x10000 ≤ n

/-- The characters that have a meaning of their own inside brackets. -/
def isFlowMark (c : Char) : Bool :=
  c = ',' || c = '[' || c = ']' || c = '{' || c = '}'

/-- The characters that no plain scalar starts with. -/
def isIndicator (c : Char) : Bool :=
  isFlowMark c || c = '-' || c = '?' || c = ':' || c = '#' || c = '&' || c = '*' || c = '!' ||
    c = '|' || c = '>' || c = '\'' || c = '"' || c = '%' || c = '@' || c = '\x60'

/-- Whether a plain scalar starts here. -/
def startsPlain (flow : Bool) : List Char → Bool
  | [] => false
  | c :: cs =>
      if isSpace c || isBreak c then false
      else if c = '-' then !(endsWord cs)
      else if c = '?' || c = ':' then !flow && !endsWord cs
      else !isIndicator c

/-- Whether the line starts with a mark between documents: three hyphens or three dots. -/
def startsMarker : List Char → Bool
  | '-' :: '-' :: '-' :: cs => endsWord cs
  | '.' :: '.' :: '.' :: cs => endsWord cs
  | _ => false

/-! ## Places -/

/-- A place in a text. -/
structure Cursor where
  /-- What follows. -/
  rest : List Char
  /-- How far it is from the start of the line. -/
  column : Nat
deriving Repr, Inhabited

namespace Cursor

/-- The place some characters further on the line. -/
def skip (n : Nat) (c : Cursor) : Cursor :=
  ⟨c.rest.drop n, c.column + n⟩

/-- Whether a mark between documents stands here. -/
def atMarker (c : Cursor) : Bool :=
  c.column == 0 && startsMarker c.rest

/-- Whether the document ends here. -/
def atEnd (c : Cursor) : Bool :=
  c.rest.isEmpty || c.atMarker

end Cursor

/-- Moves over blanks, comments and line ends, and tells whether a line ended. Tabs are blanks inside
brackets (`flow`) and behind other text of the line (`tabs`), not at the start of a line. -/
def skipGap (flow tabs comment crossed : Bool) (column : Nat) : List Char → Cursor × Bool
  | [] => (⟨[], column⟩, crossed)
  | '\r' :: '\n' :: cs => skipGap flow flow false true 0 cs
  | c :: cs =>
      if isBreak c then skipGap flow flow false true 0 cs
      else if comment then skipGap flow tabs true crossed (column + 1) cs
      else if c = ' ' || (c = '\t' && tabs) then skipGap flow tabs false crossed (column + 1) cs
      else if c = '#' then skipGap flow tabs true crossed (column + 1) cs
      else (⟨c :: cs, column⟩, crossed)

/-- The next token, and whether it stands on a later line. -/
def Cursor.next (flow tabs : Bool) (c : Cursor) : Cursor × Bool :=
  skipGap flow (flow || tabs) false false c.column c.rest

/-! ## Texts over several lines -/

/-- What stands between two words: blanks, or the ends of lines. -/
structure Fold where
  /-- The blanks of the line, the last first. -/
  spaces : List Char := []
  /-- The end of the first line; nothing stands for an end that was escaped. -/
  lead : Option (List Char) := none
  /-- The ends of empty lines after it, the last first. -/
  trail : List Char := []
deriving Repr, Inhabited

namespace Fold

/-- A blank; after the end of a line it is indentation and does not count. -/
def space (f : Fold) (c : Char) : Fold :=
  if f.lead.isNone then { f with spaces := c :: f.spaces } else f

/-- The end of a line; blanks in front of it do not count. -/
def newline (f : Fold) (c : Char) : Fold :=
  match f.lead with
  | none => ⟨[], some [c], []⟩
  | some _ => { f with trail := c :: f.trail }

/-- What the words are joined by: one line end is a space, and of several the first is dropped. -/
def text (f : Fold) : List Char :=
  match f.lead with
  | none => f.spaces.reverse
  | some ['\n'] => if f.trail.isEmpty then [' '] else f.trail.reverse
  | some lead => lead ++ f.trail.reverse

end Fold

end Fiction.Yaml
