import Fiction.Expr.Lexer
import Fiction.Proofs.Markup.TopLevel

/-!
# Fiction.Proofs.Expr.Quoted

**The quoted texts of expressions.** `Quoted` says what can stand between two quotes and which text it is
read as, one character or escape after the other. The lexer reads this text, whatever follows the quote that
closes it (`Quoted.read`), and reads nothing else as a quoted text (`exists_quoted`).
-/

namespace Fiction.Lexer

/-- The text of an escape: a backslash and this character. Escapes that stand for nothing else are kept. -/
def escapeText : Char → List Char
  | 'n' => ['\n']
  | 't' => ['\t']
  | '"' => ['"']
  | '\\' => ['\\']
  | other => ['\\', other]

/-- What stands between two quotes, and the text it is read as. -/
inductive Quoted : List Char → List Char → Prop
  | nil : Quoted [] []
  | plain {c : Char} {inner text : List Char} : c ≠ '"' → c ≠ '\\' → Quoted inner text →
      Quoted (c :: inner) (c :: text)
  | escape {c : Char} {inner text : List Char} : Quoted inner text →
      Quoted ('\\' :: c :: inner) (escapeText c ++ text)

/-- Characters that mean nothing inside quotes. -/
theorem quoted?_plain {c : Char} (hquote : c ≠ '"') (hslash : c ≠ '\\') (cs : List Char) :
    quoted? (c :: cs) = (quoted? cs).map fun taken => (c :: taken.1, taken.2) := by
  rw [quoted?]
  · exact fun h => hquote h
  · exact fun h _ => hslash h
  · exact fun d ds h _ => hslash h

theorem quoted?_escape (c : Char) (cs : List Char) : quoted? ('\\' :: c :: cs) =
    (quoted? cs).map fun taken => (escapeText c ++ taken.1, taken.2) :=
  rfl

variable {cs inner text rest : List Char}

/-- **A quoted text is read, whatever follows it.** -/
theorem Quoted.read (h : Quoted inner text) (rest : List Char) :
    quoted? (inner ++ '"' :: rest) = some (text, rest) := by
  induction h with
  | nil => rfl
  | plain quote slash _ ih =>
      rw [List.cons_append, quoted?_plain quote slash, ih]
      rfl
  | escape _ ih =>
      rw [List.cons_append, List.cons_append, quoted?_escape, ih]
      rfl

/-- **Nothing but quoted texts is read**, up to the quote that closes them. -/
theorem exists_quoted (h : quoted? cs = some (text, rest)) :
    ∃ inner, Quoted inner text ∧ cs = inner ++ '"' :: rest := by
  fun_induction quoted? cs generalizing text rest
  case case1 | case3 => cases h
  case case2 =>
    cases h
    exact ⟨[], .nil, rfl⟩
  case case4 c cs _ ih =>
    obtain ⟨⟨behind, left⟩, hbehind, same⟩ := Option.map_eq_some_iff.mp h
    cases same
    obtain ⟨inner, quoted, rfl⟩ := ih hbehind
    exact ⟨'\\' :: c :: inner, .escape quoted, rfl⟩
  case case5 c cs quote last escape ih =>
    obtain ⟨⟨behind, left⟩, hbehind, same⟩ := Option.map_eq_some_iff.mp h
    cases same
    obtain ⟨inner, quoted, rfl⟩ := ih hbehind
    exact ⟨c :: inner, .plain quote (Text.ne_backslash last escape) quoted, rfl⟩

end Fiction.Lexer
