import Fiction.Text.Fragment

/-!
# Fiction.Markup.Escape

Escapes of plain text and quoted texts as whole fragments.

* `Markup.unescape` gives the text that markup without calls and links stands for.
* `Markup.escape` writes any text so that it stands for itself.
* `Fragment.quotedBody?` gives the inside of a fragment that is one quoted text.
-/

namespace Fiction

namespace Markup

/-- The characters that a backslash turns into plain text. -/
def escapable : List Char := ['~', ':', '(', ')', '[', ']', '"', '\\', '|', '&']

/-- Removes escapes. A backslash in front of any other character stands for itself. -/
def unescape : List Char → List Char
  | [] => []
  | ['\\'] => ['\\']
  | '\\' :: c :: cs => if escapable.contains c then c :: unescape cs else '\\' :: unescape (c :: cs)
  | c :: cs => c :: unescape cs

/-- Puts a backslash in front of every character that needs one to stand for itself. -/
def escape : List Char → List Char
  | [] => []
  | c :: cs => if escapable.contains c then '\\' :: c :: escape cs else c :: escape cs

/-- Whether a text can stand between two quotes: every quote in it is behind a backslash, and no backslash
is left for the quote that closes it. The first argument says whether there is a backslash in front. -/
def isQuotable : (escaped : Bool) → List Char → Bool
  | escaped, [] => !escaped
  | true, _ :: cs => isQuotable false cs
  | false, c :: cs => c != '"' && isQuotable (c == '\\') cs

end Markup

/-- The inside of a fragment that is one quoted text and nothing else but blanks: it starts and ends with a
quote, and these two are the only ones that count. -/
def Fragment.quotedBody? (f : Fragment) : Option Fragment :=
  let whole := f.trim
  let inner := whole.chars.tail.dropLast
  if 2 ≤ whole.chars.length ∧ whole.chars.head? = some '"' ∧ whole.chars.getLast? = some '"' ∧
      Markup.isQuotable false inner then
    some ⟨whole.offset + 1, inner⟩
  else none

end Fiction
