import Fiction.Unicode.Concealed

/-!
# Fiction.Text.Quoted

Texts in quotes, written so that every character can be seen.

`quote` escapes the quote, the backslash and five controls by a letter. Characters that cannot be
seen on their own are written by their codes.
-/

namespace Fiction.Text

/-- A code as a backslash, the letter u and hexadecimal digits in braces. -/
def codeOf (c : Char) : List Char :=
  '\\' :: 'u' :: '{' :: (Nat.toDigits 16 c.toNat ++ ['}'])

/-- How a character is written between quotes. -/
def escape (c : Char) : List Char :=
  match c with
  | '"' => ['\\', '"']
  | '\\' => ['\\', '\\']
  | '\n' => ['\\', 'n']
  | '\t' => ['\\', 't']
  | '\r' => ['\\', 'r']
  | '\x00' => ['\\', '0']
  | c => if Unicode.concealed.has c.toNat then codeOf c else [c]

/-- A text in quotes. -/
def quote (s : String) : String :=
  String.ofList ('"' :: (s.toList.flatMap escape ++ ['"']))

end Fiction.Text
