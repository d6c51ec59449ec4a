import Fiction.Unicode.Alphabetic

/-!
# Fiction.Text.Letter

Letters and digits of names in expressions, in every script.
-/

namespace Fiction.Text

/-- A letter in the sense of the property `Alphabetic`. -/
def isLetter (c : Char) : Bool :=
  if c.toNat < 128 then c.isAlpha else Unicode.alphabetic.has c.toNat

/-- A numeral of any script. -/
def isNumeral (c : Char) : Bool :=
  if c.toNat < 128 then c.isDigit else Unicode.numeric.has c.toNat

/-- A letter or a numeral. -/
def isAlphanumeric (c : Char) : Bool :=
  isLetter c || isNumeral c

/-- A letter of ASCII or an underscore. -/
def isPlainStart (c : Char) : Bool :=
  c.isAlpha || c = '_'

/-- A letter or digit of ASCII or an underscore. -/
def isPlain (c : Char) : Bool :=
  c.isAlphanum || c = '_'

end Fiction.Text
