import Fiction.Proofs.Expr.Behind

/-!
# Fiction.Proofs.Expr.QuotedBody

**Markup and expressions see a quoted text in the same fragments.** A body of markup that is one quoted text
is expanded without its quotes. `Fragment.quotedBody?` looks for the quotes at both ends of what trimming
leaves, then goes over the inside and remembers only whether the last character was a backslash. The lexer
skips blanks, goes from the opening quote to the first one that nothing escapes, resolves escapes on its way
and then looks for the next token.

Both are compared with `Lexer.Quoted`, which says what can stand between quotes.

* `Markup.isQuotable_iff`: this is what markup takes for the inside of a quoted text.
* `Lexer.tokens_eq_text_iff`: a fragment has one token and this is a text exactly if a quoted text is what
  trimming leaves of the fragment.
-/

namespace Fiction

open Lexer (Quoted)

/-! ## The inside of a quoted text -/

namespace Markup

/-- What markup lets stand between quotes can be read there. -/
theorem exists_quoted_of_isQuotable (cs : List Char) :
    (isQuotable false cs = true → ∃ text, Quoted cs text) ∧
      (isQuotable true cs = true → ∃ text, Quoted ('\\' :: cs) text) := by
  -- a backslash is seen one character before the escape is whole, so both states go through the induction
  induction cs with
  | nil => exact ⟨fun _ => ⟨[], .nil⟩, fun h => by cases h⟩
  | cons c cs ih =>
      obtain ⟨bare, escaped⟩ := ih
      constructor
      · intro h
        rw [isQuotable, Bool.and_eq_true, bne_iff_ne] at h
        obtain ⟨quote, behind⟩ := h
        by_cases slash : c = '\\'
        · subst slash
          exact escaped behind
        · rw [beq_false_of_ne slash] at behind
          obtain ⟨text, quoted⟩ := bare behind
          exact ⟨c :: text, .plain quote slash quoted⟩
      · intro h
        obtain ⟨text, quoted⟩ := bare h
        exact ⟨_, .escape quoted⟩

theorem isQuotable_of_quoted {inner text : List Char} (h : Quoted inner text) :
    isQuotable false inner = true := by
  induction h with
  | nil => rfl
  | plain quote slash _ ih => simp [isQuotable, quote, beq_false_of_ne slash, ih]
  | escape _ ih => simp [isQuotable, ih]

/-- **Markup and the lexer let the same texts stand between quotes.** -/
theorem isQuotable_iff {inner : List Char} :
    isQuotable false inner = true ↔ ∃ text, Quoted inner text := by
  constructor
  · exact (exists_quoted_of_isQuotable inner).1
  · rintro ⟨text, quoted⟩
    exact isQuotable_of_quoted quoted

end Markup

/-! ## Tokens that are texts -/

namespace Lexer

variable {offset : Nat} {c : Char} {cs rest : List Char} {s : String}

theorem wordToken_ne_text (word : List Char) : wordToken word ≠ .value (.text s) := by
  unfold wordToken
  split
  all_goals
    intro h
    cases h

/-- Only a quote starts a text. -/
theorem next_eq_text_iff : next offset c cs = .ok (.value (.text s), rest) ↔
    c = '"' ∧ ∃ inner text, Quoted inner text ∧ s = String.ofList text ∧ cs = inner ++ '"' :: rest := by
  constructor
  · intro h
    rw [next_of_noCall (noCall_of_next h rfl)] at h
    unfold plainToken at h
    split at h
    · obtain ⟨value, -, token, -, -, noText⟩ := number_cases h
      cases token
      exact absurd rfl (noText s)
    split at h
    · next quote =>
        split at h
        · next text left read =>
            cases h
            obtain ⟨inner, quoted, rfl⟩ := exists_quoted read
            exact ⟨quote, inner, text, quoted, rfl, rfl⟩
        · cases h
    split at h
    · have same : (wordToken (takeWord (c :: cs)).1, (takeWord (c :: cs)).2) = (.value (.text s), rest) :=
        Except.ok.inj h
      exact absurd (Prod.mk.inj same).1 (wordToken_ne_text _)
    split at h
    · split at h
      all_goals cases h
    split at h
    · cases h
    split at h
    · cases h
    · split at h
      all_goals cases h
  · rintro ⟨rfl, inner, text, quoted, rfl, rfl⟩
    rw [next_of_ne (by decide)]
    unfold plainToken
    rw [if_neg (by decide), if_pos rfl, quoted.read]

/-- Nothing visible is left behind the only token of a fragment. -/
theorem tokens_eq_singleton_iff {f : Fragment} {token : Token} {start stop : Nat} :
    tokens f = .ok [⟨token, ⟨start, stop⟩⟩] ↔ ∃ blanks c cs rest,
      f.chars = blanks ++ c :: cs ∧ (∀ b ∈ blanks, Text.isBlank b = true) ∧ Text.isBlank c = false ∧
      next start c cs = .ok (token, rest) ∧ (∀ b ∈ rest, Text.isBlank b = true) ∧
      start = f.offset + Text.byteLength blanks ∧
      stop + Text.byteLength rest = start + Text.byteLength (c :: cs) := by
  obtain ⟨offset, chars⟩ := f
  rw [tokens_eq_ok_iff]
  constructor
  · rintro ⟨cut, -⟩
    cases cut with
    | token hblanks visible hstart hnext hstop behind =>
        cases behind with
        | done hrest => exact ⟨_, _, _, _, rfl, hblanks, visible, hnext, hrest, hstart, hstop⟩
  · rintro ⟨blanks, c, cs, rest, rfl, hblanks, visible, hnext, hrest, hstart, hstop⟩
    exact ⟨.token hblanks visible hstart hnext hstop (.done hrest), List.cons_ne_nil _ _⟩

/-- **A fragment has one token, a text, exactly if a quoted text is what trimming leaves of it.** -/
theorem tokens_eq_text_iff {f : Fragment} {span : Span} :
    tokens f = .ok [⟨.value (.text s), span⟩] ↔ span = f.trim.span ∧
      ∃ inner text, Quoted inner text ∧ s = String.ofList text ∧
        f.trim.chars = '"' :: (inner ++ ['"']) := by
  have framed (inner : List Char) : Text.Framed ('"' :: (inner ++ ['"'])) :=
    Text.framed_of_ends (by decide) (by decide) inner
  obtain ⟨start, stop⟩ := span
  rw [tokens_eq_singleton_iff]
  constructor
  · rintro ⟨blanks, c, cs, rest, chars, hblanks, -, hnext, hrest, hstart, hstop⟩
    obtain ⟨rfl, inner, text, quoted, rfl, rfl⟩ := next_eq_text_iff.mp hnext
    have trimmed : f.trim = ⟨start, '"' :: (inner ++ ['"'])⟩ := by
      have taken := Fragment.trim_surrounded (framed inner) f.offset blanks rest hblanks hrest
      rw [← hstart] at taken
      rw [← taken, Fragment.trim, Fragment.trim, chars]
      simp
    refine ⟨?_, inner, text, quoted, rfl, congrArg Fragment.chars trimmed⟩
    rw [trimmed, Fragment.span, Fragment.stop]
    simp only [Text.byteLength_cons, Text.byteLength_append, Text.byteLength_nil] at hstop ⊢
    congr 1
    omega
  · rintro ⟨span, inner, text, quoted, rfl, chars⟩
    obtain ⟨hstart, hstop⟩ := Span.mk.inj span
    obtain ⟨back, hback, whole⟩ := Text.exists_trim_surrounded f.chars
    change Text.trim f.chars = '"' :: (inner ++ ['"']) at chars
    refine ⟨f.chars.takeWhile Text.isBlank, '"', inner ++ '"' :: back, back, ?_, ?_, by decide, ?_, hback,
      hstart, ?_⟩
    · rw [chars] at whole
      simpa using whole
    · exact fun b hb => List.mem_takeWhile_imp hb
    · exact next_eq_text_iff.mpr ⟨rfl, inner, text, quoted, rfl, rfl⟩
    · rw [hstop, hstart, Fragment.stop, show f.trim.chars = _ from chars]
      simp only [Text.byteLength_cons, Text.byteLength_append, Text.byteLength_nil]
      omega

end Lexer

/-! ## The agreement -/

/-- What markup takes for a quoted text is one token, with blanks around it and without. -/
theorem exists_text_of_quotedBody? {f inner : Fragment} (h : f.quotedBody? = some inner) :
    ∃ text, Quoted inner.chars text ∧ ∀ g : Fragment, g.trim = f.trim →
      Lexer.tokens g = .ok [⟨.value (.text (String.ofList text)), f.trim.span⟩] := by
  obtain ⟨chars, -, quotable⟩ := Fragment.quotedBody?_eq_some_iff.mp h
  obtain ⟨text, quoted⟩ := Markup.isQuotable_iff.mp quotable
  refine ⟨text, quoted, fun g same => ?_⟩
  rw [← same] at chars ⊢
  exact Lexer.tokens_eq_text_iff.mpr ⟨rfl, inner.chars, text, quoted, rfl, chars⟩

/-- What the lexer takes for a text and nothing else is a quoted text of markup. -/
theorem exists_quotedBody?_of_text {f : Fragment} {s : String} {span : Span}
    (h : Lexer.tokens f = .ok [⟨.value (.text s), span⟩]) : ∃ inner, f.quotedBody? = some inner := by
  obtain ⟨-, inner, text, quoted, -, chars⟩ := Lexer.tokens_eq_text_iff.mp h
  refine ⟨⟨f.trim.offset + 1, inner⟩, ?_⟩
  exact Fragment.quotedBody?_eq_some_iff.mpr ⟨chars, rfl, Markup.isQuotable_of_quoted quoted⟩

/-- **Markup and expressions see a quoted text in the same fragments.** Markup finds the inside of a quoted
text exactly if the fragment has one token and this token is a text.

The token then takes up what trimming leaves of the fragment, which is the inside and one quote on each side
of it, and has the text that the inside is read as. -/
theorem quoted_texts_recognised_alike (f : Fragment) :
    (f.quotedBody?.isSome = true ↔ ∃ s span, Lexer.tokens f = .ok [⟨.value (.text s), span⟩]) ∧
    ∀ inner, f.quotedBody? = some inner → ∃ l text,
      Lexer.tokens f = .ok [l] ∧ l.token = .value (.text (String.ofList text)) ∧ Quoted inner.chars text ∧
      l.span.start + 1 = inner.span.start ∧ l.span.stop = inner.span.stop + 1 ∧
      f.trim.span = l.span ∧ f.trim.chars = '"' :: (inner.chars ++ ['"']) ∧
      Lexer.tokens f.trim = .ok [l] := by
  rw [Option.isSome_iff_exists]
  refine ⟨⟨?_, ?_⟩, fun inner h => ?_⟩
  · rintro ⟨inner, h⟩
    obtain ⟨text, -, read⟩ := exists_text_of_quotedBody? h
    exact ⟨_, _, read f rfl⟩
  · rintro ⟨s, span, h⟩
    exact exists_quotedBody?_of_text h
  · obtain ⟨text, quoted, read⟩ := exists_text_of_quotedBody? h
    obtain ⟨chars, offset, -⟩ := Fragment.quotedBody?_eq_some_iff.mp h
    have framed : Text.Framed f.trim.chars := chars ▸ Text.framed_of_ends (by decide) (by decide) _
    refine ⟨_, text, read f rfl, rfl, quoted, offset.symm, ?_, rfl, chars,
      read f.trim (Fragment.trim_of_framed framed)⟩
    show f.trim.offset + Text.byteLength f.trim.chars = inner.offset + Text.byteLength inner.chars + 1
    have size : '"'.utf8Size = 1 := rfl
    rw [chars, offset, Text.byteLength_cons, Text.byteLength_append, Text.byteLength_cons,
      Text.byteLength_nil, size]
    omega

/-- A quoted text between blanks of several bytes. The quotes in it and the backslash at its end are
escaped. -/
def saying : Fragment := ⟨3, "\u3000\t\"say \\\"né\\\" \\\\\" \n".toList⟩

theorem saying_recognised_alike :
    saying.quotedBody? = some ⟨8, "say \\\"né\\\" \\\\".toList⟩ ∧
    Lexer.tokens saying = .ok [⟨.value (.text "say \"né\" \\"), ⟨7, 23⟩⟩] ∧
    saying.trim.span = ⟨7, 23⟩ ∧
    Lexer.tokens saying.trim = .ok [⟨.value (.text "say \"né\" \\"), ⟨7, 23⟩⟩] := by
  have body : saying.quotedBody? = some ⟨8, "say \\\"né\\\" \\\\".toList⟩ := by decide +kernel
  have known : Lexer.tokens saying = .ok [⟨.value (.text "say \"né\" \\"), ⟨7, 23⟩⟩] := rfl
  obtain ⟨l, text, read, -, -, -, -, span, -, alone⟩ := (quoted_texts_recognised_alike saying).2 _ body
  rw [known] at read
  cases read
  exact ⟨body, known, span, alone⟩

/-- Quotes at both ends make no quoted text if one in between ends it, or if the last one is escaped. -/
example : (Fragment.ofString "\"a\" + \"b\"").quotedBody? = none ∧
    (Fragment.ofString "\"a\\\"").quotedBody? = none := by
  decide +kernel

end Fiction
