import Fiction.Proofs.Expr.Calls
import Fiction.Proofs.Expr.Enclosed
import Fiction.Proofs.Expr.Literal

/-!
# Fiction.Proofs.Expr.Behind

**The tokens of a text do not depend on what is behind it**, if a blank or a closing parenthesis keeps the
two apart and the text has no calls.

* `Cut` says what the tokens of a text are, with no bound on their number. `tokens_eq_ok_iff` ties it to the
  lexer.
* `Cut.append` puts the tokens of two texts together. For this, each of the lexer's readers is shown not to
  look beyond a separator.
* `Cut.takeCall`: a text whose parentheses match can be the body of a call. The scanner that looks for the
  end of the call goes over the text token by token (`Crosses`), as deep in parentheses as the tokens say.
-/

namespace Fiction

/-- A mark is the one with its character. -/
theorem Mark.char_of_ofChar? {c : Char} {mark : Mark} (h : Mark.ofChar? c = some mark) :
    c = mark.char := by
  unfold Mark.ofChar? at h
  split at h
  all_goals
    cases h
    try rfl

namespace Lexer

open Markup (callName? isNamePart takeCall)

/-! ## A separator behind a token -/

/-- The characters that go on no token: a blank and the parenthesis that closes. -/
def separators : List Char := [' ', ')']

/-- What was read, with more text behind what is left. -/
def onward {α : Type} (more : List Char) (found : α × List Char) : α × List Char :=
  (found.1, found.2 ++ more)

/-- The sign in front of the digits of an exponent: whether it is a minus, and what follows it. -/
def sign (cs : List Char) : Bool × List Char :=
  match cs with
  | '+' :: after => (false, after)
  | '-' :: after => (true, after)
  | _ => (false, cs)

theorem exponent?_cons (e : Char) (cs : List Char) :
    exponent? (e :: cs) =
      if e = 'e' || e = 'E' then
        if ((sign cs).2.takeWhile Char.isDigit).isEmpty then none
        else
          some (if (sign cs).1 then -(Decimal.ofDigits ((sign cs).2.takeWhile Char.isDigit) : Int)
            else (Decimal.ofDigits ((sign cs).2.takeWhile Char.isDigit) : Int),
            (sign cs).2.dropWhile Char.isDigit)
      else none :=
  rfl

/-- A number is a value and no text: digits, then a fraction or none, then an exponent or none. -/
theorem number_cases {offset : Nat} {cs rest : List Char} {token : Token}
    (h : number offset cs = .ok (token, rest)) :
    ∃ value middle, token = .value value ∧
      (middle = cs.dropWhile Char.isDigit ∨
        ∃ digits, fraction? (cs.dropWhile Char.isDigit) = some (digits, middle)) ∧
      (rest = middle ∨ ∃ e, exponent? middle = some (e, rest)) ∧ ∀ s, value ≠ .text s := by
  unfold number at h
  dsimp only at h
  cases hf : fraction? (cs.dropWhile Char.isDigit) with
  | none =>
      rw [hf] at h
      dsimp only at h
      split at h
      · next e after hx =>
          cases h
          exact ⟨_, _, rfl, .inl rfl, .inr ⟨e, hx⟩, by simp⟩
      · rw [if_neg Bool.false_ne_true] at h
        split at h
        · cases h
          exact ⟨_, _, rfl, .inl rfl, .inl rfl, by simp⟩
        · cases h
  | some found =>
      rw [hf] at h
      dsimp only at h
      split at h
      · next e after hx =>
          cases h
          exact ⟨_, _, rfl, .inr ⟨_, rfl⟩, .inr ⟨e, hx⟩, by simp⟩
      · cases h
        exact ⟨_, _, rfl, .inr ⟨_, rfl⟩, .inl rfl, by simp⟩

section Separated

variable {d : Char} (tail : List Char)

theorem takeWhile_append_cons {p : Char → Bool} (h : p d = false) (cs : List Char) :
    (cs ++ d :: tail).takeWhile p = cs.takeWhile p := by
  induction cs with
  | nil => simp [h]
  | cons c cs ih => simp [List.takeWhile_cons, ih]

theorem dropWhile_append_cons {p : Char → Bool} (h : p d = false) (cs : List Char) :
    (cs ++ d :: tail).dropWhile p = cs.dropWhile p ++ d :: tail := by
  induction cs with
  | nil => simp [h]
  | cons c cs ih =>
      rw [List.cons_append, List.dropWhile_cons, List.dropWhile_cons, ih]
      split <;> rfl

variable (hd : d ∈ separators)
include hd

/-- What holds of neither separator. -/
theorem eq_false_of_separator {p : Char → Bool} (h : separators.any p = false) : p d = false :=
  Bool.eq_false_iff.mpr (List.any_eq_false.mp h d hd)

theorem ne_of_separator {c : Char} (h : c ∉ separators) : d ≠ c :=
  fun same => h (same ▸ hd)

/-- A text that does not start with a character does not in front of a separator either. -/
theorem append_ne_cons {x : Char} (hx : x ∉ separators) {cs : List Char}
    (h : ∀ rest, cs = x :: rest → False) : ∀ rest, cs ++ d :: tail = x :: rest → False := by
  intro rest text
  cases cs with
  | nil => exact ne_of_separator hd hx (List.cons.inj text).1
  | cons c cs => exact h cs (congrArg (· :: cs) (List.cons.inj text).1)

theorem sign_separated (cs : List Char) : sign (cs ++ d :: tail) = onward (d :: tail) (sign cs) := by
  fun_cases sign cs
  case case3 plus minus =>
    rw [sign]
    · rfl
    · exact append_ne_cons tail hd (by decide) plus
    · exact append_ne_cons tail hd (by decide) minus
  all_goals rfl

theorem exponent?_separated (cs : List Char) :
    exponent? (cs ++ d :: tail) = (exponent? cs).map (onward (d :: tail)) := by
  have digit : d.isDigit = false := eq_false_of_separator hd (by decide)
  cases cs with
  | nil =>
      have small : d ≠ 'e' := ne_of_separator hd (by decide)
      have large : d ≠ 'E' := ne_of_separator hd (by decide)
      rw [List.nil_append, exponent?_cons, if_neg (by simp [small, large])]
      rfl
  | cons e cs =>
      rw [List.cons_append, exponent?_cons, exponent?_cons, sign_separated tail hd, onward]
      dsimp only
      rw [takeWhile_append_cons tail digit, dropWhile_append_cons tail digit]
      split
      · split <;> rfl
      · rfl

theorem fraction?_separated (cs : List Char) :
    fraction? (cs ++ d :: tail) = (fraction? cs).map (onward (d :: tail)) := by
  have digit : d.isDigit = false := eq_false_of_separator hd (by decide)
  fun_cases fraction? cs
  case case1 rest ds none =>
    rw [List.cons_append, fraction?]
    rw [takeWhile_append_cons tail digit, if_pos none]
    rfl
  case case2 rest ds some =>
    rw [List.cons_append, fraction?]
    rw [takeWhile_append_cons tail digit, dropWhile_append_cons tail digit, if_neg some]
    rfl
  case case3 point =>
    rw [fraction?]
    · rfl
    · exact append_ne_cons tail hd (by decide) point

theorem number_separated {offset : Nat} {cs : List Char} {found : Token × List Char}
    (h : number offset cs = .ok found) :
    number offset (cs ++ d :: tail) = .ok (onward (d :: tail) found) := by
  have digit : d.isDigit = false := eq_false_of_separator hd (by decide)
  unfold number at h ⊢
  rw [takeWhile_append_cons tail digit, dropWhile_append_cons tail digit]
  dsimp only at h ⊢
  rw [fraction?_separated tail hd]
  cases hf : fraction? (cs.dropWhile Char.isDigit) with
  | none =>
      rw [hf] at h
      dsimp only [Option.map_none] at h ⊢
      rw [exponent?_separated tail hd]
      cases hx : exponent? (cs.dropWhile Char.isDigit) with
      | none =>
          rw [hx] at h
          dsimp only [Option.map_none] at h ⊢
          rw [if_neg Bool.false_ne_true] at h ⊢
          split at h
          · cases h
            rfl
          · cases h
      | some read =>
          rw [hx] at h
          cases h
          rfl
  | some read =>
      rw [hf] at h
      dsimp only [Option.map_some, onward] at h ⊢
      rw [exponent?_separated tail hd]
      cases hx : exponent? read.2 with
      | none =>
          rw [hx] at h
          cases h
          rfl
      | some exponent =>
          rw [hx] at h
          cases h
          rfl

theorem operator?_separated (cs : List Char) :
    operator? (cs ++ d :: tail) = (operator? cs).map (onward (d :: tail)) := by
  -- no operator has a separator, so none starts in front of it that did not start before
  have single {x : Char} (hx : x ∉ separators) {cs : List Char}
      (h : ∀ rest, cs = x :: rest → False) : ∀ rest, cs ++ d :: tail = x :: rest → False :=
    append_ne_cons tail hd hx h
  have pair {x y : Char} (hx : x ∉ separators) (hy : y ∉ separators) {cs : List Char}
      (h : ∀ rest, cs = x :: y :: rest → False) :
      ∀ rest, cs ++ d :: tail = x :: y :: rest → False := by
    intro rest text
    cases cs with
    | nil => exact ne_of_separator hd hx (List.cons.inj text).1
    | cons c cs =>
        obtain ⟨rfl, behind⟩ := List.cons.inj text
        exact single hy (fun rest hrest => h rest (congrArg _ hrest)) rest behind
  fun_cases operator? cs
  case case9 cs h | case10 cs h | case11 cs h | case12 cs h | case18 cs h | case19 cs h |
      case20 cs h =>
    rw [List.cons_append, operator?]
    · rfl
    · exact single (by decide) h
  case case21 =>
    rw [operator?]
    · rfl
    all_goals first
      | exact pair (by decide) (by decide) (by assumption)
      | exact single (by decide) (by assumption)
  all_goals rfl

theorem continues_separated (c : Char) (cs : List Char) :
    continues c (cs ++ d :: tail) = continues c cs := by
  cases cs with
  | nil =>
      have start : Text.isPlainStart d = false := eq_false_of_separator hd (by decide)
      have part : Text.isPlain d = false := eq_false_of_separator hd (by decide)
      simp [continues, start, part]
  | cons => rfl

theorem takeWord_separated (cs : List Char) :
    takeWord (cs ++ d :: tail) = onward (d :: tail) (takeWord cs) := by
  induction cs with
  | nil =>
      have ends : isWordChar d = false := eq_false_of_separator hd (by decide)
      rw [List.nil_append, takeWord_cons_of_not_isWordChar ends]
      rfl
  | cons c cs ih =>
      rw [List.cons_append, takeWord, takeWord, continues_separated tail hd, ih]
      split <;> rfl

omit hd in
/-- What is behind the quote that closes a text does not matter. -/
theorem quoted?_append {cs : List Char} {found : List Char × List Char}
    (h : quoted? cs = some found) (more : List Char) :
    quoted? (cs ++ more) = some (onward more found) := by
  obtain ⟨inner, quoted, rfl⟩ := exists_quoted h
  rw [List.append_assoc, List.cons_append, quoted.read]
  rfl

theorem plainToken_separated {offset : Nat} {c : Char} {cs : List Char} {found : Token × List Char}
    (h : plainToken offset c cs = .ok found) :
    plainToken offset c (cs ++ d :: tail) = .ok (onward (d :: tail) found) := by
  unfold plainToken at h ⊢
  split at h
  · next digit =>
      rw [if_pos digit]
      exact number_separated tail hd h
  next digit =>
  rw [if_neg digit]
  split at h
  · next quote =>
      rw [if_pos quote]
      split at h
      · next read =>
          cases h
          rw [quoted?_append read]
          rfl
      · cases h
  next quote =>
  rw [if_neg quote]
  split at h
  · next letter =>
      rw [if_pos letter, ← List.cons_append, takeWord_separated tail hd]
      cases h
      rfl
  next letter =>
  rw [if_neg letter]
  split at h
  · next slash =>
      rw [if_pos slash]
      split at h
      · cases h
        rfl
      · cases h
        rfl
      · cases h
  next slash =>
  rw [if_neg slash]
  split at h
  · next binding =>
      rw [if_pos binding]
      cases h
      rfl
  next binding =>
  rw [if_neg binding, ← List.cons_append, operator?_separated tail hd]
  split at h
  · next read =>
      rw [read]
      cases h
      rfl
  · next absent =>
      rw [absent]
      dsimp only [Option.map_none]
      split at h
      · cases h
        rfl
      · cases h

theorem callName?_separated {cs : List Char} (h : callName? cs = none) :
    callName? (cs ++ d :: tail) = none := by
  have part : isNamePart d = false := eq_false_of_separator hd (by decide)
  cases cs with
  | nil =>
      have start : Text.isPlainStart d = false := eq_false_of_separator hd (by decide)
      rw [List.nil_append, callName?, start, if_neg Bool.false_ne_true]
  | cons c cs =>
      rw [callName?] at h
      rw [List.cons_append, callName?, dropWhile_append_cons tail part]
      split at h
      · next start =>
          rw [if_pos start]
          split at h
          · cases h
          · next tilde =>
              split
              · next body text => exact (append_ne_cons tail hd (by decide) tilde body text).elim
              · rfl
      · next start => rw [if_neg start]

end Separated

/-! ## Tokens without a bound -/

/-- No call starts with this character. -/
def NoCall (c : Char) (cs : List Char) : Prop :=
  c = '(' → callName? cs = none

/-- Where no call starts a plain token is read. -/
theorem next_of_noCall {c : Char} {cs : List Char} (h : NoCall c cs) (offset : Nat) :
    next offset c cs = plainToken offset c cs := by
  by_cases paren : c = '('
  · subst paren
    rw [next_eq, callAt_of_no_name offset (h rfl)]
    rfl
  · exact next_of_ne paren offset

/-- **What a token is read as**: no call starts there, or the token is the call that does. -/
theorem next_cases {offset : Nat} {c : Char} {cs rest : List Char} {token : Token}
    (h : next offset c cs = .ok (token, rest)) :
    (NoCall c cs ∧ plainToken offset c cs = .ok (token, rest)) ∨
      c = '(' ∧ ∃ name after body, callName? cs = some (name, after) ∧
        takeCall ⟨1, false, false⟩ after = some (body, rest) ∧
        token = .call (Markup.buildCall offset '(' name body) := by
  by_cases called : c = '(' ∧ ∃ name after, callName? cs = some (name, after)
  · obtain ⟨rfl, name, after, hname⟩ := called
    cases hbody : takeCall ⟨1, false, false⟩ after with
    | none =>
        obtain ⟨flaw, failed, -⟩ := callAt_of_unclosed offset hname hbody
        rw [next_eq, failed] at h
        cases h
    | some taken =>
        obtain ⟨body, left⟩ := taken
        rw [next_of_closed offset hname hbody] at h
        cases h
        exact .inr ⟨rfl, name, after, body, hname, hbody, rfl⟩
  · have noCall : NoCall c cs := by
      intro paren
      rw [Option.eq_none_iff_forall_not_mem]
      intro named hnamed
      exact called ⟨paren, named.1, named.2, hnamed⟩
    rw [next_of_noCall noCall] at h
    exact .inl ⟨noCall, h⟩

/-- If what is read is no call, no call starts there. -/
theorem noCall_of_next {offset : Nat} {c : Char} {cs rest : List Char} {token : Token}
    (h : next offset c cs = .ok (token, rest)) (hcall : token.call? = none) : NoCall c cs := by
  rcases next_cases h with ⟨noCall, -⟩ | ⟨-, name, after, body, -, -, rfl⟩
  · exact noCall
  · cases hcall

/-- The source of a call that is read is the text up to where reading goes on. -/
theorem source_of_next {offset : Nat} {c : Char} {cs rest : List Char} {call : Call}
    (h : next offset c cs = .ok (.call call, rest)) :
    call.source.offset = offset ∧ c :: cs = call.source.chars ++ rest := by
  rcases next_cases h with ⟨-, plain⟩ | ⟨rfl, name, after, body, hname, hbody, same⟩
  · exact ((plainToken_plain _ _ _).of_ok plain).1.elim
  · cases same
    refine ⟨rfl, ?_⟩
    rw [Markup.callName?_eq hname, Markup.takeCall_eq hbody]
    simp [Markup.buildCall]

/-- The tokens of a text that starts at a position: blanks are skipped, and behind a token the text
goes on. -/
inductive Cut : Nat → List Char → List Lexeme → Prop
  | done {offset : Nat} {blanks : List Char} : (∀ c ∈ blanks, Text.isBlank c = true) →
      Cut offset blanks []
  | token {offset start stop : Nat} {blanks : List Char} {c : Char} {cs rest : List Char}
      {token : Token} {lexemes : List Lexeme} :
      (∀ b ∈ blanks, Text.isBlank b = true) → Text.isBlank c = false →
      start = offset + Text.byteLength blanks →
      next start c cs = .ok (token, rest) →
      stop + Text.byteLength rest = start + Text.byteLength (c :: cs) →
      Cut stop rest lexemes → Cut offset (blanks ++ c :: cs) (⟨token, ⟨start, stop⟩⟩ :: lexemes)

/-- Behind a token the text is shorter. -/
theorem length_of_next {offset : Nat} {c : Char} {cs rest : List Char} {token : Token}
    (h : next offset c cs = .ok (token, rest)) :
    rest.length ≤ cs.length ∧ Text.byteLength rest ≤ Text.byteLength (c :: cs) := by
  have behind : rest <:+ cs := ((next_sound _ _ _).of_ok h).1
  refine ⟨behind.length_le, ?_⟩
  obtain ⟨piece, rfl⟩ := behind
  rw [Text.byteLength_cons, Text.byteLength_append]
  omega

/-- What the lexer reads within a bound are the tokens of the text. -/
theorem cut_of_tokensFrom {n offset : Nat} {cs : List Char} {lexemes : List Lexeme}
    (hn : cs.length < n) (h : tokensFrom n offset cs = .ok lexemes) : Cut offset cs lexemes := by
  induction n generalizing offset cs lexemes with
  | zero => omega
  | succ n ih =>
      have blanks : ∀ b ∈ cs.takeWhile Text.isBlank, Text.isBlank b = true :=
        fun b hb => List.mem_takeWhile_imp hb
      have whole := List.takeWhile_append_dropWhile (p := Text.isBlank) (l := cs)
      rw [tokensFrom] at h
      dsimp only at h
      split at h
      · next hdrop =>
          cases h
          rw [hdrop, List.append_nil] at whole
          exact whole ▸ .done blanks
      · next c rest hdrop =>
          obtain ⟨⟨token, after⟩, hnext, h⟩ := Outcome.bind_eq_ok.mp h
          obtain ⟨more, hmore, h⟩ := Outcome.bind_eq_ok.mp h
          cases h
          have visible : Text.isBlank c = false := by
            have head := List.head?_dropWhile_not Text.isBlank cs
            rw [hdrop] at head
            simpa using head
          obtain ⟨shorter, fits⟩ := length_of_next hnext
          rw [hdrop] at whole
          have length := congrArg List.length whole
          rw [List.length_append, List.length_cons] at length
          have cut := Cut.token blanks visible rfl hnext (by dsimp only; omega) (ih (by omega) hmore)
          rwa [whole] at cut

/-- The lexer reads the tokens of a text. -/
theorem Cut.tokensFrom {n offset : Nat} {cs : List Char} {lexemes : List Lexeme}
    (h : Cut offset cs lexemes) (hn : cs.length < n) :
    Lexer.tokensFrom n offset cs = .ok lexemes := by
  induction h generalizing n with
  | done blanks =>
      obtain ⟨n, rfl⟩ : ∃ m, n = m + 1 := ⟨n - 1, by omega⟩
      rw [Lexer.tokensFrom, List.dropWhile_eq_nil_iff.mpr blanks]
  | @token offset start stop blanks c cs rest token lexemes hblanks visible hstart hnext hstop _ ih =>
      obtain ⟨n, rfl⟩ : ∃ m, n = m + 1 := ⟨n - 1, by omega⟩
      have taken : (blanks ++ c :: cs).takeWhile Text.isBlank = blanks := by
        rw [List.takeWhile_append_of_pos hblanks, List.takeWhile_cons_of_neg (by simp [visible]),
          List.append_nil]
      have left : (blanks ++ c :: cs).dropWhile Text.isBlank = c :: cs := by
        rw [List.dropWhile_append_of_pos hblanks, List.dropWhile_cons_of_neg (by simp [visible])]
      obtain ⟨shorter, fits⟩ := length_of_next hnext
      rw [List.length_append, List.length_cons] at hn
      have stops : start + (Text.byteLength (c :: cs) - Text.byteLength rest) = stop := by omega
      rw [Lexer.tokensFrom, taken, left]
      dsimp only
      rw [← hstart, hnext]
      change (Lexer.tokensFrom n (start + (Text.byteLength (c :: cs) - Text.byteLength rest)) rest >>= _) = _
      rw [stops, ih (by omega)]
      rfl

/-- **What the tokens of a fragment are.** -/
theorem tokens_eq_ok_iff {f : Fragment} {lexemes : List Lexeme} :
    tokens f = .ok lexemes ↔ Cut f.offset f.chars lexemes ∧ lexemes ≠ [] := by
  constructor
  · intro h
    obtain ⟨read, hread, h⟩ := Outcome.bind_eq_ok.mp h
    cases read with
    | nil => cases h
    | cons first rest =>
        cases h
        exact ⟨cut_of_tokensFrom (Nat.lt_succ_self _) hread, List.cons_ne_nil _ _⟩
  · rintro ⟨h, visible⟩
    obtain ⟨first, rest, rfl⟩ := List.exists_cons_of_ne_nil visible
    rw [tokens, h.tokensFrom (Nat.lt_succ_self _)]
    rfl

/-! ## Two texts after each other -/

theorem next_separated {offset : Nat} {c d : Char} {cs rest : List Char} {token : Token}
    (h : next offset c cs = .ok (token, rest)) (hcall : token.call? = none) (hd : d ∈ separators)
    (tail : List Char) : next offset c (cs ++ d :: tail) = .ok (token, rest ++ d :: tail) := by
  have noCall := noCall_of_next h hcall
  rw [next_of_noCall noCall] at h
  rw [next_of_noCall fun paren => callName?_separated tail hd (noCall paren)]
  exact plainToken_separated tail hd h

/-- Blanks may stand in front. -/
theorem Cut.blanks {offset : Nat} {blanks cs : List Char} {lexemes : List Lexeme}
    (hblanks : ∀ b ∈ blanks, Text.isBlank b = true)
    (h : Cut (offset + Text.byteLength blanks) cs lexemes) : Cut offset (blanks ++ cs) lexemes := by
  cases h with
  | done hcs => exact .done (List.forall_mem_append.mpr ⟨hblanks, hcs⟩)
  | token hcs visible hstart hnext hstop more =>
      rw [← List.append_assoc]
      refine .token (List.forall_mem_append.mpr ⟨hblanks, hcs⟩) visible ?_ hnext hstop more
      rw [hstart, Text.byteLength_append, Nat.add_assoc]

/-- **Behind a separator the tokens go on as they would in a text of their own.** -/
theorem Cut.append {offset : Nat} {cs : List Char} {lexemes more : List Lexeme}
    (h : Cut offset cs lexemes) (hcalls : ∀ l ∈ lexemes, l.token.call? = none) {d : Char}
    (hd : d ∈ separators) {tail : List Char}
    (h' : Cut (offset + Text.byteLength cs) (d :: tail) more) :
    Cut offset (cs ++ d :: tail) (lexemes ++ more) := by
  induction h with
  | done hblanks => exact h'.blanks hblanks
  | @token offset start stop blanks c cs rest token lexemes hblanks visible hstart hnext hstop _ ih =>
      obtain ⟨first, others⟩ := List.forall_mem_cons.mp hcalls
      have later : stop + Text.byteLength rest = offset + Text.byteLength (blanks ++ c :: cs) := by
        rw [hstop, hstart, Text.byteLength_append, Nat.add_assoc]
      rw [List.append_assoc, List.cons_append]
      refine .token hblanks visible hstart (next_separated hnext first hd tail) ?_
        (ih others (later ▸ h'))
      simp only [Text.byteLength_append, Text.byteLength_cons] at hstop ⊢
      omega

/-! ## The end of a call behind tokens -/

open Fiction.Parser (parens parens_neutral parens_open parens_close Neutral neutral_mark neutral_of_not_isMark)

theorem neutral_wordToken (word : List Char) : Neutral (wordToken word) := by
  unfold wordToken
  split <;> exact neutral_of_not_isMark rfl rfl

/-- Outside of quotes and escapes, in a number of parentheses. -/
abbrev bare (depth : Nat) : Nesting := ⟨depth, false, false⟩

/-- Looking for the end of a call goes on behind the front of a text, from one nesting to another. -/
def Crosses (n m : Nesting) (cs rest : List Char) : Prop :=
  ∃ front, cs = front ++ rest ∧ ∀ more, takeCall n (front ++ more) =
    (takeCall m more).map fun taken => (front ++ taken.1, taken.2)

namespace Crosses

variable {n m k : Nesting} {c : Char} {cs ds es : List Char} {depth : Nat}

theorem refl (n : Nesting) (cs : List Char) : Crosses n n cs cs :=
  ⟨[], rfl, fun more => by simp⟩

theorem trans (h : Crosses n m cs ds) (h' : Crosses m k ds es) : Crosses n k cs es := by
  obtain ⟨front, rfl, hfront⟩ := h
  obtain ⟨back, rfl, hback⟩ := h'
  refine ⟨front ++ back, (List.append_assoc _ _ _).symm, fun more => ?_⟩
  rw [List.append_assoc, hfront, hback, Option.map_map]
  simp [Function.comp_def]

/-- A character that is not the end moves the nesting. -/
theorem step (h : (n.isBare && c == ')' && decide (n.depth ≤ 1)) = false) (cs : List Char) :
    Crosses n (Bracketing.call.step n c) (c :: cs) cs :=
  ⟨[c], rfl, fun more => by rw [List.singleton_append, takeCall, if_neg (by simp [h])]; rfl⟩

theorem plain (h : Bracketing.call.isSpecial c = false) (cs : List Char) :
    Crosses (bare depth) (bare depth) (c :: cs) cs := by
  have crossed := step (n := bare depth) (c := c) (by
    have : c ≠ ')' := by rintro rfl; exact absurd h (by decide)
    simp [this]) cs
  rwa [Bracketing.step_plain rfl h] at crossed

/-- What holds of no character that nests can be crossed. -/
theorem of_plain {p : Char → Bool} (hp : ['\\', '"', '(', ')'].any p = false) (hc : p c = true)
    (cs : List Char) : Crosses (bare depth) (bare depth) (c :: cs) cs := by
  have ne : ∀ special ∈ ['\\', '"', '(', ')'], c ≠ special := by
    rintro special hspecial rfl
    exact List.any_eq_false.mp hp _ hspecial hc
  refine plain ?_ cs
  simp only [List.forall_mem_cons] at ne
  simp [Bracketing.isSpecial, Bracketing.call, ne]

theorem dropWhile {p : Char → Bool} (hp : ['\\', '"', '(', ')'].any p = false) (cs : List Char) :
    Crosses (bare depth) (bare depth) cs (cs.dropWhile p) := by
  induction cs with
  | nil => exact refl _ _
  | cons c cs ih =>
      rw [List.dropWhile_cons]
      split
      · next hc => exact (of_plain hp hc cs).trans ih
      · exact refl _ _

theorem sign (cs : List Char) : Crosses (bare depth) (bare depth) cs (Lexer.sign cs).2 := by
  fun_cases Lexer.sign cs
  case case1 => exact plain (by decide) _
  case case2 => exact plain (by decide) _
  case case3 => exact refl _ _

theorem exponent? {e : Int} {rest : List Char} (h : Lexer.exponent? cs = some (e, rest)) :
    Crosses (bare depth) (bare depth) cs rest := by
  cases cs with
  | nil => cases h
  | cons c cs =>
      rw [exponent?_cons] at h
      split at h
      · next letter =>
          split at h
          · cases h
          · cases h
            have first : Crosses (bare depth) (bare depth) (c :: cs) cs :=
              of_plain (p := fun c => c = 'e' || c = 'E') (by decide) letter cs
            exact (first.trans (sign cs)).trans (dropWhile (by decide) _)
      · cases h

theorem fraction? {digits rest : List Char} (h : Lexer.fraction? cs = some (digits, rest)) :
    Crosses (bare depth) (bare depth) cs rest := by
  unfold Lexer.fraction? at h
  split at h
  · dsimp only at h
    split at h
    · cases h
    · cases h
      exact (plain (by decide) _).trans (dropWhile (by decide) _)
  · cases h

theorem number {offset : Nat} {token : Token} {rest : List Char}
    (h : Lexer.number offset cs = .ok (token, rest)) :
    Crosses (bare depth) (bare depth) cs rest := by
  obtain ⟨-, middle, -, hfraction, hexponent, -⟩ := number_cases h
  refine (dropWhile (p := Char.isDigit) (by decide) cs).trans ?_
  have first : Crosses (bare depth) (bare depth) (cs.dropWhile Char.isDigit) middle := by
    rcases hfraction with rfl | ⟨digits, read⟩
    · exact refl _ _
    · exact fraction? read
  refine first.trans ?_
  rcases hexponent with rfl | ⟨e, read⟩
  · exact refl _ _
  · exact exponent? read

theorem takeWord (cs : List Char) : Crosses (bare depth) (bare depth) cs (Lexer.takeWord cs).2 := by
  induction cs with
  | nil => exact refl _ _
  | cons c cs ih =>
      rw [Lexer.takeWord]
      split
      · next goesOn =>
          exact (of_plain (by decide) (isWordChar_of_continues goesOn) cs).trans ih
      · exact refl _ _

theorem operator? {op : Operator} {rest : List Char} (h : Lexer.operator? cs = some (op, rest)) :
    Crosses (bare depth) (bare depth) cs rest := by
  unfold Lexer.operator? at h
  split at h <;> cases h
  iterate 8 exact (plain (by decide) _).trans (plain (by decide) _)
  all_goals exact plain (by decide) _

/-- A quoted text ends behind its quote. -/
theorem quoted {inner text : List Char} (h : Quoted inner text) (rest : List Char) :
    Crosses ⟨depth, true, false⟩ (bare depth) (inner ++ '"' :: rest) rest := by
  have inside (c : Char) (cs : List Char) :
      Crosses ⟨depth, true, false⟩ (Bracketing.call.step ⟨depth, true, false⟩ c) (c :: cs) cs :=
    step rfl cs
  induction h with
  | nil => exact inside _ _
  | @plain c inner text quote slash _ ih =>
      have kept : Bracketing.call.step ⟨depth, true, false⟩ c = ⟨depth, true, false⟩ := by
        simp [Bracketing.step, slash, quote]
      have first := inside c (inner ++ '"' :: rest)
      rw [kept] at first
      exact first.trans ih
  | @escape c inner text _ ih =>
      have escaped : Crosses ⟨depth, true, true⟩ ⟨depth, true, false⟩ (c :: (inner ++ '"' :: rest))
          (inner ++ '"' :: rest) := step rfl _
      exact ((inside '\\' _).trans escaped).trans ih

/-- A token that starts with no parenthesis is none, and is crossed. -/
theorem plainToken {offset : Nat} {token : Token} {rest : List Char}
    (h : Lexer.plainToken offset c cs = .ok (token, rest)) (hopen : c ≠ '(') (hclose : c ≠ ')') :
    Neutral token ∧ Crosses (bare depth) (bare depth) (c :: cs) rest := by
  unfold Lexer.plainToken at h
  split at h
  · obtain ⟨value, -, rfl, -⟩ := number_cases h
    exact ⟨neutral_of_not_isMark rfl rfl, number h⟩
  split at h
  · next quote =>
      subst quote
      split at h
      · next read =>
          cases h
          obtain ⟨inner, isQuoted, rfl⟩ := exists_quoted read
          exact ⟨neutral_of_not_isMark rfl rfl, (step (by simp) _).trans (quoted isQuoted _)⟩
      · cases h
  split at h
  · cases h
    exact ⟨neutral_wordToken _, takeWord (c :: cs)⟩
  next quote _ =>
  split at h
  · next slash =>
      subst slash
      have escaped {c : Char} (cs : List Char) :
          Crosses ⟨depth, false, true⟩ (bare depth) (c :: cs) cs := step rfl cs
      have first : Crosses (bare depth) ⟨depth, false, true⟩ ('\\' :: cs) cs := step (by simp) cs
      split at h
      · cases h
        exact ⟨neutral_mark (by decide), first.trans (escaped _)⟩
      · cases h
        exact ⟨neutral_mark (by decide), first.trans (escaped _)⟩
      · cases h
  next slash =>
  split at h
  · next binding =>
      cases h
      exact ⟨neutral_of_not_isMark rfl rfl,
        of_plain (p := fun c => c = '?' || c = '@' || c = '#') (by decide) binding cs⟩
  split at h
  · next read =>
      cases h
      exact ⟨neutral_of_not_isMark rfl rfl, operator? read⟩
  split at h
  · next mark known =>
      cases h
      have char := Mark.char_of_ofChar? known
      refine ⟨neutral_mark fun paren => ?_, plain ?_ cs⟩
      · simp only [List.mem_cons, List.not_mem_nil, or_false] at paren
        rcases paren with rfl | rfl
        · exact hopen char
        · exact hclose char
      · simp [Bracketing.isSpecial, Bracketing.call, quote, slash, hopen, hclose]
  · cases h

end Crosses

/-- **The end of a call is looked for behind the tokens of a text**, in as many parentheses as the
tokens leave open. -/
theorem Cut.crosses {offset depth depth' : Nat} {cs : List Char} {lexemes : List Lexeme}
    (h : Cut offset cs lexemes) (hcalls : ∀ l ∈ lexemes, l.token.call? = none)
    (hdepth : parens depth lexemes = some depth') :
    Crosses (bare (depth + 1)) (bare (depth' + 1)) cs [] := by
  induction h generalizing depth with
  | @done offset blanks hblanks =>
      cases hdepth
      have crossed : Crosses (bare (depth' + 1)) (bare (depth' + 1)) blanks
          (blanks.dropWhile Text.isBlank) := .dropWhile (by decide) blanks
      rwa [List.dropWhile_eq_nil_iff.mpr hblanks] at crossed
  | @token offset start stop blanks c cs rest token lexemes hblanks visible hstart hnext hstop _ ih =>
      obtain ⟨first, others⟩ := List.forall_mem_cons.mp hcalls
      have skipped : Crosses (bare (depth + 1)) (bare (depth + 1)) (blanks ++ c :: cs)
          (c :: cs) := by
        have crossed : Crosses (bare (depth + 1)) (bare (depth + 1)) (blanks ++ c :: cs)
            ((blanks ++ c :: cs).dropWhile Text.isBlank) := .dropWhile (by decide) _
        rwa [List.dropWhile_append_of_pos hblanks, List.dropWhile_cons_of_neg (by simp [visible])]
          at crossed
      refine skipped.trans ?_
      rw [next_of_noCall (noCall_of_next hnext first)] at hnext
      by_cases hopen : c = '('
      · subst hopen
        cases hnext
        rw [parens_open rfl] at hdepth
        exact (Crosses.step (by simp) cs).trans (ih others hdepth)
      by_cases hclose : c = ')'
      · subst hclose
        cases hnext
        cases depth with
        | zero => cases hdepth
        | succ depth =>
            rw [parens_close rfl] at hdepth
            exact (Crosses.step (by simp) cs).trans (ih others hdepth)
      · obtain ⟨neutral, crossed⟩ : Neutral token ∧
            Crosses (bare (depth + 1)) (bare (depth + 1)) (c :: cs) rest :=
          Crosses.plainToken hnext hopen hclose
        rw [parens_neutral neutral] at hdepth
        exact crossed.trans (ih others hdepth)

/-- **A text with matching parentheses can be the body of a call.** -/
theorem Cut.takeCall {offset : Nat} {cs : List Char} {lexemes : List Lexeme}
    (h : Cut offset cs lexemes) (hcalls : ∀ l ∈ lexemes, l.token.call? = none)
    (hdepth : parens 0 lexemes = some 0) (rest : List Char) :
    Markup.takeCall ⟨1, false, false⟩ (cs ++ ')' :: rest) = some (cs, rest) := by
  obtain ⟨front, text, crossed⟩ := h.crosses hcalls hdepth
  rw [List.append_nil] at text
  subst text
  rw [crossed]
  simp [Markup.takeCall, Nesting.isBare]

end Lexer

end Fiction
