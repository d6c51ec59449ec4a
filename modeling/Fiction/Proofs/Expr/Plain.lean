import Fiction.Proofs.Expr.Behind
import Fiction.Proofs.Expr.Shift
import Fiction.Proofs.Markup.Inert
import Mathlib.Data.List.Infix

/-!
# Fiction.Proofs.Expr.Plain

Expressions without calls, and the texts of maps that are made of them.

* `Markup.Undivided` texts have no tilde outside of quotes, escapes and brackets. They are one argument of a
  call, and no call starts with them.
* `PlainExpression` texts are expressions without calls. Their tokens and their trees are the same wherever they
  stand (`ReadsAs`).
* `Lexer.deferredMap` and `Lexer.directMap` are the two spellings of a map: its body is a call of `eval`, or an
  expression in parentheses. `Lexer.tokens_deferredMap` and `Lexer.tokens_directMap` are their tokens.
-/

namespace Fiction

/-! ## Texts without tildes -/

namespace Bracketing

theorem after_plain {b : Bracketing} {n : Nesting} (hn : n.isBare = true) {cs : List Char}
    (h : ∀ c ∈ cs, b.isSpecial c = false) : b.after n cs = n := by
  induction cs with
  | nil => rfl
  | cons c cs ih =>
      obtain ⟨first, others⟩ := List.forall_mem_cons.mp h
      change b.after (b.step n c) cs = n
      rw [step_plain hn first]
      exact ih others

theorem isSpecial_of_inactive {c : Char} (h : c ∉ activeChars) : argument.isSpecial c = false := by
  simp only [activeChars, List.mem_cons, List.not_mem_nil, or_false, not_or] at h
  simp [isSpecial, argument, h]

end Bracketing

namespace Markup

/-- No tilde stands outside of quotes, escapes and brackets. -/
def Undivided (cs : List Char) : Prop :=
  ∀ before, before ++ ['~'] <+: cs → (Bracketing.argument.after .top before).isTop = false

instance decidableUndivided : DecidablePred Undivided := fun cs =>
  decidable_of_iff (∀ before ∈ cs.inits, before ++ ['~'] <+: cs →
    (Bracketing.argument.after .top before).isTop = false)
    ⟨fun h before hb => h before ((List.mem_inits _ _).mpr ((List.prefix_append _ _).trans hb)) hb,
      fun h before _ => h before⟩

theorem splitTop_undivided {n : Nesting} {cs : List Char}
    (h : ∀ before, before ++ ['~'] <+: cs → (Bracketing.argument.after n before).isTop = false) :
    Bracketing.argument.splitTop '~' n cs = [cs] := by
  have tilde : Bracketing.argument.isSpecial '~' = false := by decide
  rcases Bracketing.splitTop_cases tilde n cs with whole | ⟨piece, rest, rfl, -, closed, -⟩
  · exact whole
  · have inside := h piece ⟨rest, by simp⟩
    rw [closed] at inside
    cases inside

/-- In front of a tilde there is something that nests. -/
theorem Undivided.not_inactive {before after : List Char} (h : Undivided (before ++ '~' :: after)) :
    ¬ ∀ c ∈ before, c ∉ activeChars := by
  intro inactive
  have inside := h before ⟨after, by simp⟩
  rw [Bracketing.after_plain rfl fun c hc => Bracketing.isSpecial_of_inactive (inactive c hc)] at inside
  cases inside

theorem Undivided.blank {cs : List Char} (h : Undivided cs) : Undivided (' ' :: cs) := by
  intro before hb
  cases before with
  | nil => exact absurd (List.cons_prefix_cons.mp hb).1 (by decide)
  | cons b before =>
      obtain ⟨rfl, rest⟩ := List.cons_prefix_cons.mp hb
      exact h before rest

/-- A text with no tilde outside of everything is one argument. -/
theorem arguments_undivided {cs : List Char} (h : Undivided cs) (visible : Text.isEmptyText cs = false)
    (offset : Nat) : arguments ⟨offset, cs⟩ = [⟨offset, cs⟩] := by
  have text := List.takeWhile_append_dropWhile (p := Text.isBlank) (l := cs)
  have shown : Fragment.isBlank ⟨offset, cs⟩ = false := visible
  unfold arguments
  dsimp only
  split
  · next rest hdrop =>
      rw [hdrop] at text
      rw [← text] at h
      refine absurd (fun c hc => ?_) h.not_inactive
      exact not_mem_activeChars (P := Text.isBlank) (by decide) (List.mem_takeWhile_imp hc)
  · rw [shown, if_neg Bool.false_ne_true, Fragment.splitTop, splitTop_undivided h]
    rfl

/-- No call starts with such a text. -/
theorem Undivided.callName?_eq_none {cs : List Char} (h : Undivided cs) : callName? cs = none := by
  cases hname : callName? cs with
  | none => rfl
  | some found =>
      obtain ⟨name, body⟩ := found
      obtain ⟨isName, rfl⟩ := callName?_eq_some_iff.mp hname
      refine absurd (fun c hc => ?_) h.not_inactive
      exact not_mem_activeChars (P := isNamePart) (by decide) (isName.isNamePart c hc)

end Markup

/-! ## Expressions without calls -/

namespace Lexer

/-- A blank may stand in front. -/
theorem Cut.blank {offset : Nat} {cs : List Char} {lexemes : List Lexeme} (h : Cut (offset + 1) cs lexemes) :
    Cut offset (' ' :: cs) lexemes := by
  have blank : ∀ b ∈ [' '], Text.isBlank b = true := List.forall_mem_singleton.mpr (by decide)
  exact Cut.blanks blank h

/-- A token at the start of the text. -/
theorem Cut.first {offset stop : Nat} {c : Char} {cs rest : List Char} {token : Token} {lexemes : List Lexeme}
    (visible : Text.isBlank c = false) (hnext : next offset c cs = .ok (token, rest))
    (hstop : stop + Text.byteLength rest = offset + Text.byteLength (c :: cs)) (h : Cut stop rest lexemes) :
    Cut offset (c :: cs) (⟨token, ⟨offset, stop⟩⟩ :: lexemes) := by
  have none : ∀ b ∈ ([] : List Char), Text.isBlank b = true := nofun
  exact Cut.token none visible rfl hnext hstop h

/-- A token of one character that is one byte long. -/
theorem Cut.character {offset : Nat} {c : Char} {cs : List Char} {token : Token} {lexemes : List Lexeme}
    (visible : Text.isBlank c = false) (size : c.utf8Size = 1) (hnext : next offset c cs = .ok (token, cs))
    (h : Cut (offset + 1) cs lexemes) : Cut offset (c :: cs) (⟨token, ⟨offset, offset + 1⟩⟩ :: lexemes) := by
  refine Cut.first visible hnext ?_ h
  rw [Text.byteLength_cons, size, Nat.add_assoc]

end Lexer

/-- A text that is an expression without calls. -/
def PlainExpression (cs : List Char) : Prop :=
  ∃ lexemes x, Lexer.tokens ⟨0, cs⟩ = .ok lexemes ∧ (∀ l ∈ lexemes, l.token.call? = none) ∧
    Parser.parse lexemes (Fragment.mk 0 cs).span = .ok x

/-- Reads a text and looks for calls. -/
def isPlainExpression (cs : List Char) : Bool :=
  match Lexer.tokens ⟨0, cs⟩ with
  | .ok lexemes =>
      lexemes.all (·.token.call?.isNone) && (Parser.parse lexemes (Fragment.mk 0 cs).span).isOk
  | .error _ => false

theorem isPlainExpression_iff {cs : List Char} : isPlainExpression cs = true ↔ PlainExpression cs := by
  unfold isPlainExpression PlainExpression
  cases Lexer.tokens ⟨0, cs⟩ with
  | error flaw => simp
  | ok lexemes =>
      cases hx : Parser.parse lexemes (Fragment.mk 0 cs).span with
      | error flaw => simp [hx, Except.isOk, Except.toBool]
      | ok x => simp [hx, Except.isOk, Except.toBool]

instance decidablePlainExpression : DecidablePred PlainExpression :=
  fun _ => decidable_of_iff _ isPlainExpression_iff

/-- The tokens and the tree of a text, wherever it stands. -/
structure ReadsAs (cs : List Char) (lexemes : List Lexeme) (x : Expr) : Prop where
  nonempty : lexemes ≠ []
  plain : ∀ l ∈ lexemes, l.token.call? = none
  tree : x.All (·.call? = none) fun _ => True
  cut : ∀ offset, Lexer.Cut offset cs (lexemes.map (·.shift offset))
  read : ∀ offset stop, Parser.readExpression stop 0 (lexemes.map (·.shift offset)) = .ok (x.shift offset, [])

theorem PlainExpression.exists_readsAs {cs : List Char} (h : PlainExpression cs) :
    ∃ lexemes x, ReadsAs cs lexemes x := by
  obtain ⟨lexemes, x, tokens, plain, parsed⟩ := h
  have everywhere (offset : Nat) : Lexer.tokens ⟨offset, cs⟩ = .ok (lexemes.map (·.shift offset)) := by
    have moved := Lexer.tokens_shift offset ⟨0, cs⟩
    rw [tokens] at moved
    exact moved
  refine ⟨lexemes, x, (Lexer.tokens_eq_ok_iff.mp tokens).2, plain, ?_, fun offset => ?_, fun offset stop => ?_⟩
  · have all : ∀ l ∈ lexemes, l.All (·.call? = none) fun _ => True := fun l hl => ⟨plain l hl, trivial⟩
    exact (Parser.parse_sound trivial trivial (fun _ _ => trivial) all).of_ok parsed
  · exact (Lexer.tokens_eq_ok_iff.mp (everywhere offset)).1
  · have moved := Parser.parse_shift offset lexemes (Fragment.mk 0 cs).span
    rw [parsed] at moved
    exact Parser.readExpression_everywhere (Parser.read_of_parse moved) stop

namespace ReadsAs

variable {cs : List Char} {lexemes : List Lexeme} {x : Expr} (h : ReadsAs cs lexemes x)

include h

theorem plain_shift (offset : Nat) : ∀ l ∈ lexemes.map (·.shift offset), l.token.call? = none := by
  intro l hl
  obtain ⟨original, member, rfl⟩ := List.mem_map.mp hl
  have none := h.plain original member
  rw [Lexeme.shift, Token.shift_of_call?_none offset none]
  exact none

/-- Such a text is not blank. -/
theorem visible : Text.isEmptyText cs = false := by
  have cut := h.cut 0
  generalize hmoved : lexemes.map (·.shift 0) = moved at cut
  cases cut with
  | done _ => exact absurd (List.map_eq_nil_iff.mp hmoved) h.nonempty
  | token _ visible _ _ _ _ => simp [Text.isEmptyText, visible]

theorem tokens (offset : Nat) : Lexer.tokens ⟨offset, cs⟩ = .ok (lexemes.map (·.shift offset)) :=
  Lexer.tokens_eq_ok_iff.mpr ⟨h.cut offset, fun none => h.nonempty (List.map_eq_nil_iff.mp none)⟩

/-- A blank in front of the text moves its tokens. -/
theorem tokens_blank (offset : Nat) :
    Lexer.tokens ⟨offset, ' ' :: cs⟩ = .ok (lexemes.map (·.shift (offset + 1))) := by
  refine Lexer.tokens_eq_ok_iff.mpr ⟨?_, fun none => h.nonempty (List.map_eq_nil_iff.mp none)⟩
  exact (h.cut (offset + 1)).blank

theorem parse (offset : Nat) (whole : Span) :
    Parser.parse (lexemes.map (·.shift offset)) whole = .ok (x.shift offset) :=
  Parser.parse_of_read (fun none => h.nonempty (List.map_eq_nil_iff.mp none)) (h.read offset whole.stop)

theorem parens (offset : Nat) : Parser.parens 0 (lexemes.map (·.shift offset)) = some 0 :=
  Parser.parens_of_readExpression (h.read offset 0) 0

end ReadsAs

/-! ## The two spellings -/

namespace Lexer

variable {cs : List Char} {lexemes : List Lexeme} {x : Expr}

/-- The call that is the body of a map, and its token. -/
def evalAt (offset : Nat) (cs : List Char) : Call :=
  Markup.buildCall offset '(' ['e', 'v', 'a', 'l'] (' ' :: cs)

def deferredAt (offset : Nat) (cs : List Char) : Lexeme :=
  ⟨.call (evalAt offset cs), ⟨offset, offset + Text.byteLength cs + 8⟩⟩

theorem cut_deferredAt (h : ReadsAs cs lexemes x) (offset : Nat) :
    Cut offset ('(' :: 'e' :: 'v' :: 'a' :: 'l' :: '~' :: ' ' :: (cs ++ [')'])) [deferredAt offset cs] := by
  have body : Cut 0 (' ' :: cs) (lexemes.map (·.shift 1)) := (h.cut 1).blank
  have closed : Markup.takeCall ⟨1, false, false⟩ (' ' :: cs ++ [')']) = some (' ' :: cs, []) :=
    body.takeCall (h.plain_shift 1) (h.parens 1) []
  have named : Markup.callName? ('e' :: 'v' :: 'a' :: 'l' :: '~' :: (' ' :: cs ++ [')'])) =
      some (['e', 'v', 'a', 'l'], ' ' :: cs ++ [')']) :=
    Markup.callName?_eq_some_iff.mpr ⟨by decide, rfl⟩
  have sizes : ∀ c ∈ ['(', 'e', 'v', 'a', 'l', '~', ' ', ')'], c.utf8Size = 1 :=
    List.all_iff_forall_prop.mp (by decide)
  simp only [List.forall_mem_cons] at sizes
  refine Cut.first (by decide) (next_of_closed offset named closed) ?_ (.done nofun)
  simp only [Text.byteLength_cons, Text.byteLength_append, Text.byteLength_nil, sizes]
  omega

/-- The tokens of an expression in parentheses. -/
def enclosedAt (offset : Nat) (cs : List Char) (lexemes : List Lexeme) : List Lexeme :=
  ⟨.mark .openParen, ⟨offset, offset + 1⟩⟩ :: (lexemes.map (·.shift (offset + 1)) ++
    [⟨.mark .closeParen, ⟨offset + 1 + Text.byteLength cs, offset + 1 + Text.byteLength cs + 1⟩⟩])

theorem cut_enclosedAt (h : ReadsAs cs lexemes x) (undivided : Markup.Undivided cs) (offset : Nat) :
    Cut offset ('(' :: (cs ++ [')'])) (enclosedAt offset cs lexemes) := by
  have paren : ')' ∈ separators := by decide
  have noCall : NoCall '(' (cs ++ [')']) :=
    fun _ => callName?_separated [] paren undivided.callName?_eq_none
  have opening : next offset '(' (cs ++ [')']) = .ok (.mark .openParen, cs ++ [')']) :=
    (next_of_noCall noCall offset).trans rfl
  have closing : next (offset + 1 + Text.byteLength cs) ')' [] = .ok (.mark .closeParen, []) := rfl
  refine Cut.character (by decide) (by decide) opening ?_
  refine (h.cut (offset + 1)).append (h.plain_shift _) paren ?_
  exact Cut.character (by decide) (by decide) closing (.done nofun)

/-- The `!` behind a collection. -/
def bangAt (offset : Nat) : Lexeme := ⟨.mark .bang, ⟨offset + 1, offset + 2⟩⟩

theorem cut_map (h : ReadsAs cs lexemes x) {offset : Nat} {rest : List Char} {body : List Lexeme}
    (hbody : Cut (offset + Text.byteLength cs + 3) rest body) :
    Cut offset (cs ++ ' ' :: '!' :: ' ' :: rest)
      (lexemes.map (·.shift offset) ++ bangAt (offset + Text.byteLength cs) :: body) := by
  refine (h.cut offset).append (h.plain_shift _) (by decide) ?_
  exact Cut.blank (Cut.character (by decide) (by decide) rfl hbody.blank)

/-- A map of a collection whose body is a call of `eval`. -/
def deferredMap (c e : List Char) : List Char :=
  c ++ " ! (eval~ ".toList ++ e ++ [')']

/-- A map of a collection whose body is an expression in parentheses. -/
def directMap (c e : List Char) : List Char :=
  c ++ " ! (".toList ++ e ++ [')']

section

variable {c e : List Char} {collection lexemes : List Lexeme} {xc xe : Expr} (hc : ReadsAs c collection xc)
  (he : ReadsAs e lexemes xe) (offset : Nat)

include hc he

theorem tokens_deferredMap : tokens ⟨offset, deferredMap c e⟩ =
    .ok (collection.map (·.shift offset) ++ [bangAt (offset + Text.byteLength c),
      deferredAt (offset + Text.byteLength c + 3) e]) := by
  have text : deferredMap c e = c ++ ' ' :: '!' :: ' ' ::
      '(' :: 'e' :: 'v' :: 'a' :: 'l' :: '~' :: ' ' :: (e ++ [')']) := by simp [deferredMap]
  rw [text]
  exact tokens_eq_ok_iff.mpr ⟨cut_map hc (cut_deferredAt he _), by simp⟩

theorem tokens_directMap (undivided : Markup.Undivided e) : tokens ⟨offset, directMap c e⟩ =
    .ok (collection.map (·.shift offset) ++ bangAt (offset + Text.byteLength c) ::
      enclosedAt (offset + Text.byteLength c + 3) e lexemes) := by
  have text : directMap c e = c ++ ' ' :: '!' :: ' ' :: '(' :: (e ++ [')']) := by simp [directMap]
  rw [text]
  exact tokens_eq_ok_iff.mpr ⟨cut_map hc (cut_enclosedAt he undivided _), by simp⟩

theorem plain_directMap : ∀ l ∈ collection.map (·.shift offset) ++ bangAt (offset + Text.byteLength c) ::
    enclosedAt (offset + Text.byteLength c + 3) e lexemes, l.token.call? = none := by
  simp only [enclosedAt, List.forall_mem_append, List.forall_mem_cons]
  exact ⟨hc.plain_shift _, rfl, rfl, he.plain_shift _, rfl, nofun⟩

end

end Lexer

end Fiction
