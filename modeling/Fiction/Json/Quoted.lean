/-!
# Fiction.Json.Quoted

Quoted texts in data files.

`quote` puts a text in double quotes. The quote, the backslash and the controls below U+0020 are
escaped: five controls by a letter, the rest by their number in four hexadecimal digits. Every
other character stands for itself.
-/

namespace Fiction.Json

/-- A hexadecimal digit in lower case. -/
def hexDigit (d : Nat) : Char :=
  Char.ofNat (if d < 10 then 48 + d else 87 + d)

/-- The characters that stand for one character inside quotes. -/
def escape (c : Char) : List Char :=
  if c = '"' then ['\\', '"']
  else if c = '\\' then ['\\', '\\']
  else if c = '\n' then ['\\', 'n']
  else if c = '\t' then ['\\', 't']
  else if c = '\r' then ['\\', 'r']
  else if c.toNat = 8 then ['\\', 'b']
  else if c.toNat = 12 then ['\\', 'f']
  else if c.toNat < 32 then ['\\', 'u', '0', '0', hexDigit (c.toNat / 16), hexDigit (c.toNat % 16)]
  else [c]

/-- The inside of a quoted text. -/
def escapeAll (cs : List Char) : List Char :=
  cs.flatMap escape

/-- A text in double quotes. -/
def quote (s : String) : String :=
  String.ofList ('"' :: (escapeAll s.toList ++ ['"']))

end Fiction.Json
