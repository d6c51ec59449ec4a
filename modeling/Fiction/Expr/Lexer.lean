import Fiction.Decimal.Layout
import Fiction.Expr.Token
import Fiction.Markup.Scan
import Fiction.Operator.Integer

/-!
# Fiction.Expr.Lexer

Cutting expressions into tokens.

* `Lexer.next` reads the token at the start of a text.
* `Lexer.tokens` reads all tokens of a fragment.

A call is recognised here and kept whole; its extent is found by `Lexer.callText?` before the markup
scanner takes it apart.
-/

namespace Fiction.Lexer

/-- A token and what follows it. -/
abbrev Step := Except Flaw (Token × List Char)

/-! ## Calls -/

/-- The number of characters up to the parenthesis that closes a call, or of all characters if there
is none. -/
def callLength : Nesting → List Char → Nat
  | _, [] => 0
  | n, c :: cs =>
      if n.isBare && c == ')' && n.depth == 1 then 1
      else callLength (Bracketing.call.step n c) cs + 1

/-- The text of the call that starts with an opening parenthesis. A call that is not closed takes all
that is left. -/
def callText? (cs : List Char) : Option (List Char) :=
  match cs with
  | '(' :: after =>
      match after.head?, after.dropWhile Markup.isNamePart with
      | some first, '~' :: _ =>
          if Text.isPlainStart first then some (cs.take (callLength .top cs)) else none
      | _, _ => none
  | _ => none

/-! ## Numbers -/

/-- The exponent at the start of a text and what follows it. -/
def exponent? (cs : List Char) : Option (Int × List Char) :=
  match cs with
  | e :: rest =>
      if e = 'e' || e = 'E' then
        let (negative, rest) :=
          match rest with
          | '+' :: after => (false, after)
          | '-' :: after => (true, after)
          | _ => (false, rest)
        let ds := rest.takeWhile Char.isDigit
        let n : Int := Decimal.ofDigits ds
        if ds.isEmpty then none
        else some (if negative then -n else n, rest.dropWhile Char.isDigit)
      else none
  | [] => none

/-- The digits behind a decimal point, if a text starts with one. -/
def fraction? (cs : List Char) : Option (List Char × List Char) :=
  match cs with
  | '.' :: rest =>
      let ds := rest.takeWhile Char.isDigit
      if ds.isEmpty then none else some (ds, rest.dropWhile Char.isDigit)
  | _ => none

/-- A number: an integer, or a real if it has a fraction or an exponent. -/
def number (offset : Nat) (cs : List Char) : Step :=
  let whole := cs.takeWhile Char.isDigit
  let rest := cs.dropWhile Char.isDigit
  let (fraction, rest, isReal) :=
    match fraction? rest with
    | some (ds, after) => (ds, after, true)
    | none => ([], rest, false)
  match exponent? rest with
  | some (e, after) => real (whole ++ fraction) (e - fraction.length) after
  | none =>
      if isReal then real (whole ++ fraction) (-fraction.length) rest
      else
        match Integer.fit? (Decimal.ofDigits whole) with
        | some n => .ok (.value (.int n), rest)
        | none =>
            .error (.of (.invalidNumber (String.ofList whole))
              ⟨offset, offset + Text.byteLength whole⟩)
where
  /-- A real from its digits and the power of ten they count. -/
  real (ds : List Char) (e : Int) (rest : List Char) : Step :=
    .ok (.value (.real (Decimal.ofDecimal (Decimal.ofDigits ds) e)), rest)

/-! ## Texts -/

/-- A quoted text, from behind its opening quote. Escapes that stand for nothing else are kept, so
that regular expressions need no second backslash. -/
def quoted? : List Char → Option (List Char × List Char)
  | [] => none
  | '"' :: cs => some ([], cs)
  | ['\\'] => none
  | '\\' :: c :: cs =>
      let text :=
        match c with
        | 'n' => ['\n']
        | 't' => ['\t']
        | '"' => ['"']
        | '\\' => ['\\']
        | other => ['\\', other]
      (quoted? cs).map fun (inner, rest) => (text ++ inner, rest)
  | c :: cs => (quoted? cs).map fun (inner, rest) => (c :: inner, rest)

/-! ## Words -/

/-- Whether a word goes on with this character, given what follows it. Hyphens and dots are part of
a word when a letter, or for dots a digit, follows. -/
def continues (c : Char) (following : List Char) : Bool :=
  Text.isAlphanumeric c || c = '_' ||
    match following with
    | d :: _ => (c = '-' && Text.isPlainStart d) || (c = '.' && Text.isPlain d)
    | [] => false

/-- The word at the start of a text and what follows it. -/
def takeWord : List Char → List Char × List Char
  | [] => ([], [])
  | c :: cs =>
      if continues c cs then
        let (word, rest) := takeWord cs
        (c :: word, rest)
      else ([], c :: cs)

/-- The token of a word. -/
def wordToken (word : List Char) : Token :=
  match String.ofList word with
  | "and" => .operator .and
  | "or" => .operator .or
  | "not" => .not
  | "true" | "True" => .value (.bool true)
  | "false" | "False" => .value (.bool false)
  | "null" | "None" => .value .null
  | name => .name name

/-! ## Operators -/

/-- The operator at the start of a text; of two that fit, the longer one. -/
def operator? : List Char → Option (Operator × List Char)
  | '*' :: '*' :: cs => some (.power, cs)
  | '/' :: '/' :: cs => some (.doubleSlash, cs)
  | '%' :: '%' :: cs => some (.doublePercent, cs)
  | '^' :: '^' :: cs => some (.doubleCaret, cs)
  | '!' :: '=' :: cs => some (.unequal, cs)
  | '=' :: '=' :: cs => some (.equal, cs)
  | '<' :: '=' :: cs => some (.atMost, cs)
  | '>' :: '=' :: cs => some (.atLeast, cs)
  | '*' :: cs => some (.times, cs)
  | '/' :: cs => some (.slash, cs)
  | '%' :: cs => some (.percent, cs)
  | '^' :: cs => some (.caret, cs)
  | '+' :: cs => some (.plus, cs)
  | '-' :: cs => some (.minus, cs)
  | '.' :: cs => some (.dot, cs)
  | '|' :: cs => some (.bar, cs)
  | '&' :: cs => some (.ampersand, cs)
  | '=' :: cs => some (.equal, cs)
  | '<' :: cs => some (.less, cs)
  | '>' :: cs => some (.greater, cs)
  | _ => none

/-! ## Tokens -/

/-- A character that starts no token. -/
def unexpectedAt (offset : Nat) (c : Char) : Flaw :=
  .of (.unexpected "an expression" s!"'{c}'") ⟨offset, offset + c.utf8Size⟩

/-- The token at the start of a text that starts with neither a blank nor a call. -/
def plainToken (offset : Nat) (c : Char) (cs : List Char) : Step :=
  if c.isDigit then number offset (c :: cs)
  else if c = '"' then
    match quoted? cs with
    | some (text, rest) => .ok (.value (.text (String.ofList text)), rest)
    | none => .error (.of .unterminatedText ⟨offset, offset + Text.byteLength (c :: cs)⟩)
  else if Text.isLetter c || c = '_' then
    let (word, rest) := takeWord (c :: cs)
    .ok (wordToken word, rest)
  else if c = '\\' then
    match cs with
    | '~' :: rest => .ok (.mark .tilde, rest)
    | ':' :: rest => .ok (.mark .colon, rest)
    | _ => .error (unexpectedAt offset c)
  else if c = '?' || c = '@' || c = '#' then .ok (.binding c, cs)
  else
    match operator? (c :: cs) with
    | some (op, rest) => .ok (.operator op, rest)
    | none =>
        match Mark.ofChar? c with
        | some m => .ok (.mark m, cs)
        | none => .error (unexpectedAt offset c)

/-- The token at the start of a text that does not start with a blank. -/
def next (offset : Nat) (c : Char) (cs : List Char) : Step := do
  match callText? (c :: cs) with
  | some text =>
      match ← Markup.singleCall ⟨offset, text⟩ with
      | some call => return (.call call, (c :: cs).drop call.source.chars.length)
      | none => plainToken offset c cs
  | none => plainToken offset c cs

/-- The tokens of a text that starts at a position. The first argument bounds their number. -/
def tokensFrom : Nat → (offset : Nat) → List Char → Except Flaw (List Lexeme)
  | 0, _, _ => .ok []
  | n + 1, offset, cs =>
      let start := offset + Text.byteLength (cs.takeWhile Text.isBlank)
      match cs.dropWhile Text.isBlank with
      | [] => .ok []
      | c :: rest => do
          let (token, after) ← next start c rest
          let stop := start + (Text.byteLength (c :: rest) - Text.byteLength after)
          let more ← tokensFrom n stop after
          return ⟨token, ⟨start, stop⟩⟩ :: more

/-- The tokens of an expression. Every token has a character, so the length of the text bounds their
number. -/
def tokens (f : Fragment) : Except Flaw (List Lexeme) := do
  match ← tokensFrom (f.chars.length + 1) f.offset f.chars with
  | [] => .error (.of .emptyExpression f.span)
  | lexemes => .ok lexemes

end Fiction.Lexer
