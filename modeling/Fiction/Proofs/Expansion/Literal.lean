import Fiction.Proofs.Expansion.Keeps
import Fiction.Proofs.Expr.Literal
import Fiction.Proofs.Expr.Unbounded

/-!
# Fiction.Proofs.Expansion.Literal

**Literals are readable.** A value that is written as a literal and evaluated as an expression comes
back as it was, exactly if it is `Value.Legible`.

* `Parser.parses` takes the tokens of a literal to a tree that denotes what the literal is read as,
  whatever follows it inside a collection.
* `Expansion.runIn_evaluate_literal` is the value of a fragment that is a literal, blanks in front of
  it apart. It is the same for every caller and changes nothing.
* `Expansion.evaluateTop_literal_iff` is the main statement.
-/

namespace Fiction

/-- The expression has this value whatever its calls do, and changes nothing. -/
def Expr.Denotes (e : Expr) (v : Value) : Prop :=
  ∀ call s p, (Expansion.evalExpr call e).runIn s p = (.ok v, p)

/-- The expressions have these values. -/
def Expr.DenoteItems (es : List Expr) (vs : List Value) : Prop :=
  ∀ call s p, (Expansion.evalItems call es).runIn s p = (.ok vs, p)

/-- The pairs of expressions have these keys and values. -/
def Expr.DenoteEntries (es : List (Expr × Expr)) (entries : List (String × Value)) : Prop :=
  ∀ call s p, (Expansion.evalEntries call es).runIn s p = (.ok entries, p)

theorem Expr.DenoteItems.cons {e : Expr} {es : List Expr} {v : Value} {vs : List Value}
    (first : e.Denotes v) (rest : DenoteItems es vs) : DenoteItems (e :: es) (v :: vs) := by
  intro call s p
  rw [Expansion.evalItems, Expansion.runIn_bind, first]
  dsimp only
  rw [Expansion.runIn_bind, rest]
  rfl

theorem Expr.DenoteEntries.cons {k e : Expr} {es : List (Expr × Expr)} {key : String} {v : Value}
    {entries : List (String × Value)} (hkey : k.Denotes (.text key)) (first : e.Denotes v)
    (rest : DenoteEntries es entries) : DenoteEntries ((k, e) :: es) ((key, v) :: entries) := by
  intro call s p
  rw [Expansion.evalEntries, Expansion.runIn_bind, hkey]
  dsimp only
  rw [Expansion.runIn_bind, first]
  dsimp only
  rw [Expansion.runIn_bind, rest]
  rfl

/-! ## Trees -/

namespace Parser

variable {stop n least : Nat} {tokens rest : List Lexeme} {e : Expr}

/-- In front of a mark that closes it, an expression is its operand. -/
theorem Closes.expression (h : Closes rest) (hoperand : operand stop (n + 1) tokens = .ok (e, rest)) :
    expression stop (n + 2) least tokens = .ok (e, rest) := by
  rw [Parser.expression, hoperand]
  exact operators_of_ends h.ends

/-- The tokens of a literal make up an expression that has the value they are read as. -/
def Parses (v : Value) : Prop :=
  ∀ stop least {n lexemes rest}, v.tokens? = some (lexemes.map Lexeme.token) → Closes rest →
    3 * lexemes.length + 2 ≤ n →
    ∃ e, expression stop n least (lexemes ++ rest) = .ok (e, rest) ∧ e.Denotes v.reread

/-- A token that is a value is a literal by itself. -/
theorem parses_value {v w : Value} (hv : v.tokens? = some [.value w]) (hw : v.reread = w) :
    Parses v := by
  intro stop least n lexemes rest htokens hrest hn
  obtain ⟨n, rfl⟩ : ∃ k, n = k + 2 := ⟨n - 2, by omega⟩
  rw [hv, Option.some.injEq] at htokens
  obtain ⟨lexeme, rfl, htoken⟩ : ∃ lexeme, lexemes = [lexeme] ∧ lexeme.token = .value w := by
    simpa [List.map_eq_cons_iff] using htokens.symm
  refine ⟨.literal lexeme.span w, hrest.expression ?_, fun call s p => by rw [hw]; rfl⟩
  rw [List.singleton_append, operand]
  simp only [htoken]

/-- A negative integer is its magnitude behind a sign. -/
theorem parses_int (k : Int64) : Parses (.int k) := by
  rcases Int.lt_or_le k.toInt 0 with negative | natural
  · intro stop least n lexemes rest htokens hrest hn
    rw [Value.tokens?, if_pos negative, Option.map_eq_some_iff] at htokens
    obtain ⟨m, hm, htokens⟩ := htokens
    obtain ⟨sign, magnitude, rfl, hsign, hmagnitude⟩ : ∃ sign magnitude,
        lexemes = [sign, magnitude] ∧ sign.token = .operator .minus ∧
          magnitude.token = .value (.int m) := by
      simpa [List.map_eq_cons_iff, and_assoc] using htokens.symm
    obtain ⟨n, rfl⟩ : ∃ j, n = j + 4 := ⟨n - 4, by simp at hn; omega⟩
    -- behind the sign the magnitude is an expression of its own
    have inner : expression stop (n + 2) signPower (magnitude :: rest) =
        .ok (.literal magnitude.span (.int m), rest) := by
      refine hrest.expression ?_
      rw [operand]
      simp only [hmagnitude]
    have back : (Prefix.negate).apply (.int m) = .ok (.int k) := by
      rw [Prefix.apply, Integer.neg?_of_neg? hm, Operator.fitted]
    refine ⟨_, hrest.expression (e := .unary (sign.span.join magnitude.span) .negate
      (.literal magnitude.span (.int m))) ?_, fun call s p => ?_⟩
    · rw [List.cons_append, List.singleton_append, operand]
      simp only [hsign, sign?, inner]
      rfl
    · rw [Expansion.evalExpr, Expansion.runIn_bind, Expansion.evalExpr, Expansion.runIn_pure]
      simp only [back]
      rfl
  · exact parses_value (w := .int k) (by rw [Value.tokens?, if_neg (Int.not_lt.mpr natural)]) rfl

/-- The tokens of a literal do not start with a closing bracket. -/
theorem nextIs_tokens {v : Value} {lexemes : List Lexeme} (mark : Mark) (rest : List Lexeme)
    (h : v.tokens? = some (lexemes.map Lexeme.token)) (hmark : mark.opener?.isSome = true) :
    nextIs mark (lexemes ++ rest) = false := by
  obtain ⟨first, more, hfirst, hmore⟩ : ∃ first more, v.tokens? = some (first :: more) ∧
      first.isMark mark = false := by
    cases v with
    | null | bool _ | text _ => exact ⟨_, _, rfl, rfl⟩
    | real _ => cases h
    | int k =>
        rw [Value.tokens?] at h ⊢
        split at h
        · next negative =>
            obtain ⟨m, hm, -⟩ := Option.map_eq_some_iff.mp h
            exact ⟨_, _, by rw [if_pos negative, hm]; rfl, rfl⟩
        · next natural => exact ⟨_, _, by rw [if_neg natural], rfl⟩
    | list items =>
        obtain ⟨inner, hinner, -⟩ := Option.map_eq_some_iff.mp h
        refine ⟨.mark .openBracket, _, by rw [Value.tokens?, hinner]; rfl, ?_⟩
        cases mark <;> cases hmark <;> rfl
    | mapping entries =>
        obtain ⟨inner, hinner, -⟩ := Option.map_eq_some_iff.mp h
        refine ⟨.mark .openBrace, _, by rw [Value.tokens?, hinner]; rfl, ?_⟩
        cases mark <;> cases hmark <;> rfl
  rw [hfirst, Option.some.injEq] at h
  obtain ⟨lexeme, lexemes, rfl, htoken, -⟩ := List.map_eq_cons_iff.mp h.symm
  rw [List.cons_append, nextIs, htoken, hmore]

/-- Reading an item of a list. -/
theorem items_step (stop : Nat) {v : Value} (hv : Parses v) {front : List Lexeme}
    (htokens : v.tokens? = some (front.map Lexeme.token)) (hrest : Closes rest)
    (hn : 3 * front.length + 2 ≤ n) :
    ∃ e, e.Denotes v.reread ∧ items stop (n + 1) (front ++ rest) =
      if nextIs .comma rest then
        (items stop n (rest.drop 1)).map fun found => (e :: found.1, found.2)
      else .ok ([e], rest) := by
  obtain ⟨e, he, denotes⟩ := hv stop 0 htokens hrest hn
  refine ⟨e, denotes, ?_⟩
  rw [items, nextIs_tokens _ _ htokens rfl, if_neg Bool.false_ne_true, he]
  dsimp only [bind, Except.bind]
  split
  · cases items stop n (rest.drop 1) with
    | ok found => rfl
    | error flaw => rfl
  · rfl

/-- Reading an entry of a mapping. -/
theorem entries_step (stop : Nat) {key : String} {v : Value} (hv : Parses v) {k colon : Lexeme}
    {front : List Lexeme} (hk : k.token = .value (.text (String.ofList (Lexer.reread key.toList))))
    (hcolon : colon.token = .mark .colon)
    (htokens : v.tokens? = some (front.map Lexeme.token)) (hrest : Closes rest)
    (hn : 3 * front.length + 5 ≤ n) :
    ∃ ke ve, ke.Denotes (Value.text (String.ofList (Lexer.reread key.toList))) ∧
      ve.Denotes v.reread ∧ entries stop (n + 1) (k :: colon :: (front ++ rest)) =
        if nextIs .comma rest then
          (entries stop n (rest.drop 1)).map fun found => ((ke, ve) :: found.1, found.2)
        else .ok ([(ke, ve)], rest) := by
  have keyTokens : (Value.text key).tokens? = some ([k].map Lexeme.token) := by
    rw [Value.tokens?, List.map_singleton, hk]
  have behindKey : Closes (colon :: (front ++ rest)) := Closes.cons _ hcolon (by decide)
  obtain ⟨ke, hke, keyDenotes⟩ := parses_value (v := .text key) rfl rfl stop 0 keyTokens
    behindKey (by simp; omega : 3 * [k].length + 2 ≤ n)
  obtain ⟨ve, hve, valueDenotes⟩ := hv stop 0 htokens hrest (n := n) (by omega)
  refine ⟨ke, ve, keyDenotes, valueDenotes, ?_⟩
  -- a key is not taken for the end of the mapping
  have open_ := nextIs_tokens .closeBrace (colon :: (front ++ rest)) keyTokens rfl
  rw [List.singleton_append] at hke open_
  rw [entries, open_, if_neg Bool.false_ne_true, hke]
  dsimp only [bind, Except.bind]
  rw [expect, hcolon, Token.isMark, if_pos (by decide)]
  dsimp only
  rw [hve]
  dsimp only
  split
  · cases entries stop n (rest.drop 1) with
    | ok found => rfl
    | error flaw => rfl
  · rfl

theorem parses_items (stop : Nat) (rest : List Lexeme) {items : List Value}
    (ih : ∀ v ∈ items, Parses v) {lexemes : List Lexeme} {close : Lexeme}
    (htokens : Value.tokensOfItems? items = some (lexemes.map Lexeme.token))
    (hclose : close.token = .mark .closeBracket) (hn : 3 * lexemes.length + 3 ≤ n) :
    ∃ es, Parser.items stop n (lexemes ++ close :: rest) = .ok (es, close :: rest) ∧
      Expr.DenoteItems es (Value.rereadItems items) := by
  induction items generalizing n lexemes with
  | nil =>
      obtain ⟨n, rfl⟩ : ∃ j, n = j + 1 := ⟨n - 1, by omega⟩
      obtain rfl : lexemes = [] := by simpa [Value.tokensOfItems?] using htokens
      refine ⟨[], ?_, fun call s p => rfl⟩
      rw [List.nil_append, Parser.items, nextIs_of_token _ hclose]
      rfl
  | cons v items more =>
      rw [List.forall_mem_cons] at ih
      obtain ⟨n, rfl⟩ : ∃ j, n = j + 1 := ⟨n - 1, by omega⟩
      cases items with
      | nil =>
          rw [Value.tokensOfItems?] at htokens
          obtain ⟨e, denotes, he⟩ := items_step stop (n := n) ih.1 htokens
            (Closes.cons rest hclose (by decide)) (by omega)
          rw [nextIs_of_token _ hclose, if_neg (by decide)] at he
          exact ⟨[e], he, .cons denotes fun call s p => rfl⟩
      | cons w items =>
          obtain ⟨ts, later, hts, hlater, hmap⟩ := Value.exists_of_tokensOfItems? htokens
          obtain ⟨front, tail, rfl, rfl, htail⟩ := List.map_eq_append_iff.mp hmap.symm
          -- the first item ends at the comma, and the others are read as before
          obtain ⟨comma, back, rfl, hcomma, rfl⟩ := List.map_eq_cons_iff.mp htail
          simp only [List.length_append, List.length_cons] at hn
          obtain ⟨e, denotes, he⟩ := items_step stop (n := n) ih.1 hts
            (Closes.cons (back ++ close :: rest) hcomma (by decide)) (by omega)
          obtain ⟨es, hes, denoteRest⟩ := more ih.2 (n := n) hlater (by omega)
          rw [nextIs_of_token _ hcomma, if_pos (by decide), List.drop_succ_cons, List.drop_zero,
            hes] at he
          exact ⟨e :: es, by rw [List.append_assoc, List.cons_append, he]; rfl, .cons denotes denoteRest⟩

theorem parses_entries (stop : Nat) (rest : List Lexeme) {entries : List (String × Value)}
    (ih : ∀ entry ∈ entries, Parses entry.2) {lexemes : List Lexeme} {close : Lexeme}
    (htokens : Value.tokensOfEntries? entries = some (lexemes.map Lexeme.token))
    (hclose : close.token = .mark .closeBrace) (hn : 3 * lexemes.length + 3 ≤ n) :
    ∃ es, Parser.entries stop n (lexemes ++ close :: rest) = .ok (es, close :: rest) ∧
      Expr.DenoteEntries es (Value.rereadEntries entries) := by
  induction entries generalizing n lexemes with
  | nil =>
      obtain ⟨n, rfl⟩ : ∃ j, n = j + 1 := ⟨n - 1, by omega⟩
      obtain rfl : lexemes = [] := by simpa [Value.tokensOfEntries?] using htokens
      refine ⟨[], ?_, fun call s p => rfl⟩
      rw [List.nil_append, Parser.entries, nextIs_of_token _ hclose]
      rfl
  | cons entry entries more =>
      obtain ⟨key, v⟩ := entry
      rw [List.forall_mem_cons] at ih
      obtain ⟨n, rfl⟩ : ∃ j, n = j + 1 := ⟨n - 1, by omega⟩
      cases entries with
      | nil =>
          obtain ⟨ts, hts, hmap⟩ := Value.exists_of_tokensOfEntry? htokens
          obtain ⟨k, tail, rfl, hk, htail⟩ := List.map_eq_cons_iff.mp hmap.symm
          obtain ⟨colon, front, rfl, hcolon, rfl⟩ := List.map_eq_cons_iff.mp htail
          simp only [List.length_cons] at hn
          obtain ⟨ke, ve, keyDenotes, denotes, he⟩ := entries_step stop (n := n) ih.1 hk
            hcolon hts (Closes.cons rest hclose (by decide)) (by omega)
          rw [nextIs_of_token _ hclose, if_neg (by decide)] at he
          exact ⟨[(ke, ve)], he, .cons keyDenotes denotes fun call s p => rfl⟩
      | cons next entries =>
          obtain ⟨ts, later, hts, hlater, hmap⟩ := Value.exists_of_tokensOfEntries? htokens
          obtain ⟨k, tail, rfl, hk, htail⟩ := List.map_eq_cons_iff.mp hmap.symm
          obtain ⟨colon, tail, rfl, hcolon, hvalue⟩ := List.map_eq_cons_iff.mp htail
          obtain ⟨front, tail, rfl, rfl, hback⟩ := List.map_eq_append_iff.mp hvalue
          obtain ⟨comma, back, rfl, hcomma, rfl⟩ := List.map_eq_cons_iff.mp hback
          simp only [List.length_append, List.length_cons] at hn
          obtain ⟨ke, ve, keyDenotes, denotes, he⟩ := entries_step stop (n := n) ih.1 hk
            hcolon hts (Closes.cons (back ++ close :: rest) hcomma (by decide)) (by omega)
          obtain ⟨es, hes, denoteRest⟩ := more ih.2 (n := n) hlater (by omega)
          rw [nextIs_of_token _ hcomma, if_pos (by decide), List.drop_succ_cons, List.drop_zero,
            hes] at he
          refine ⟨(ke, ve) :: es, ?_, .cons keyDenotes denotes denoteRest⟩
          simp only [List.cons_append, List.append_assoc]
          rw [he]
          rfl

/-- What stands between two brackets. -/
theorem exists_of_bracketed {first last : Mark} {inner : List Token} {lexemes : List Lexeme}
    (h : .mark first :: inner ++ [.mark last] = lexemes.map Lexeme.token) :
    ∃ left middle right, lexemes = left :: (middle ++ [right]) ∧ left.token = .mark first ∧
      middle.map Lexeme.token = inner ∧ right.token = .mark last := by
  obtain ⟨left, tail, rfl, hleft, htail⟩ := List.map_eq_cons_iff.mp h.symm
  obtain ⟨middle, tail, rfl, hmiddle, htail⟩ := List.map_eq_append_iff.mp htail
  obtain ⟨right, tail, rfl, hright, hnil⟩ := List.map_eq_cons_iff.mp htail
  obtain rfl := List.map_eq_nil_iff.mp hnil
  exact ⟨left, middle, right, rfl, hleft, hmiddle, hright⟩

/-- **The tokens of a literal make up an expression that has the value they are read as.** -/
theorem parses (v : Value) : Parses v := by
  induction v with
  | null => exact parses_value rfl rfl
  | bool b => exact parses_value rfl rfl
  | int k => exact parses_int k
  | real x =>
      intro stop least n lexemes rest htokens
      cases htokens
  | text s => exact parses_value rfl rfl
  | list items ih =>
      intro stop least n lexemes rest htokens hrest hn
      obtain ⟨inner, hinner, hmap⟩ := Option.map_eq_some_iff.mp htokens
      obtain ⟨left, middle, right, rfl, hleft, rfl, hright⟩ := exists_of_bracketed hmap
      simp only [List.length_cons, List.length_append, List.length_nil] at hn
      obtain ⟨n, rfl⟩ : ∃ j, n = j + 2 := ⟨n - 2, by omega⟩
      obtain ⟨es, hes, denotes⟩ := parses_items stop rest (n := n) ih hinner hright
        (by omega)
      refine ⟨_, hrest.expression (e := .list (left.span.join right.span) es) ?_, fun call s p => ?_⟩
      · rw [List.cons_append, List.append_assoc, List.singleton_append, operand]
        simp only [hleft, hes]
        dsimp only [bind, Except.bind]
        rw [expect, hright]
        rfl
      · rw [Expansion.evalExpr, Expansion.runIn_bind, denotes]
        rfl
  | mapping entries ih =>
      intro stop least n lexemes rest htokens hrest hn
      obtain ⟨inner, hinner, hmap⟩ := Option.map_eq_some_iff.mp htokens
      obtain ⟨left, middle, right, rfl, hleft, rfl, hright⟩ := exists_of_bracketed hmap
      simp only [List.length_cons, List.length_append, List.length_nil] at hn
      obtain ⟨n, rfl⟩ : ∃ j, n = j + 2 := ⟨n - 2, by omega⟩
      obtain ⟨es, hes, denotes⟩ := parses_entries stop rest (n := n) ih hinner hright
        (by omega)
      refine ⟨_, hrest.expression (e := .mapping (left.span.join right.span) es) ?_,
        fun call s p => ?_⟩
      · rw [List.cons_append, List.append_assoc, List.singleton_append, operand]
        simp only [hleft, hes]
        dsimp only [bind, Except.bind]
        rw [expect, hright]
        rfl
      · rw [Expansion.evalExpr, Expansion.runIn_bind, denotes]
        rfl

end Parser

/-! ## Evaluation -/

namespace Expansion

variable {call : Caller} {s : Setting} {p : Progress}

/-- Tokens that are no calls are passed over. -/
theorem runIn_expandCalls_append {front rest : List Lexeme}
    (h : ∀ token ∈ front.map Lexeme.token, token.call? = none)
    (hrest : ∀ afterBang, (expandCalls call afterBang rest).runIn s p = (.ok rest, p))
    (afterBang : Bool) :
    (expandCalls call afterBang (front ++ rest)).runIn s p = (.ok (front ++ rest), p) := by
  induction front generalizing afterBang with
  | nil => exact hrest afterBang
  | cons lexeme front ih =>
      obtain ⟨token, span⟩ := lexeme
      rw [List.map_cons, List.forall_mem_cons] at h
      have later : (expandCalls call (token.isMark .bang) (front ++ rest)).runIn s p =
          (.ok (front ++ rest), p) := ih h.2 _
      cases token with
      | call c => cases h.1
      | value _ | name _ | binding _ | operator _ | not | mark _ =>
          rw [List.cons_append]
          unfold expandCalls
          rw [runIn_bind, runIn_pure]
          dsimp only
          rw [runIn_bind, later]
          rfl

/-- Where there are no calls, there is nothing to expand. -/
theorem runIn_expandCalls_of_plain {lexemes : List Lexeme} {afterBang : Bool}
    (h : ∀ token ∈ lexemes.map Lexeme.token, token.call? = none) :
    (expandCalls call afterBang lexemes).runIn s p = (.ok lexemes, p) := by
  have all : (expandCalls call afterBang (lexemes ++ [])).runIn s p = (.ok (lexemes ++ []), p) :=
    runIn_expandCalls_append h (fun _ => rfl) afterBang
  rwa [List.append_nil] at all

/-- The tree of tokens that are those of a literal. -/
theorem parse_literal {v : Value} {lexemes : List Lexeme}
    (h : v.tokens? = some (lexemes.map Lexeme.token)) (whole : Span) :
    ∃ e, Parser.parse lexemes whole = .ok e ∧ e.Denotes v.reread := by
  obtain ⟨e, he, denotes⟩ := Parser.parses v whole.stop 0 h Parser.Closes.nil
    (n := Parser.depthFor lexemes) (by unfold Parser.depthFor; omega)
  have some : lexemes.isEmpty = false := by
    cases lexemes with
    | nil =>
        have opened := Parser.nextIs_tokens .closeBrace [⟨.mark .closeBrace, whole⟩] h rfl
        cases opened
    | cons _ _ => rfl
  rw [List.append_nil] at he
  refine ⟨e, ?_, denotes⟩
  rw [Parser.parse, some, if_neg Bool.false_ne_true, he]
  rfl

section

variable {v : Value} {f : Fragment} {blanks : List Char} (hv : v.RealFree)
  (hblanks : ∀ c ∈ blanks, Text.isBlank c = true) (hf : f.chars = blanks ++ v.literal.toList)

include hv hblanks hf

/-- A literal behind blanks is read as its tokens. -/
theorem tokensFrom_literal : (Lexer.tokensFrom (f.chars.length + 1) f.offset f.chars).toOption.map
    (·.map Lexeme.token) = v.tokens? := by
  have read := (Lexer.readsLiteral hv Lexer.Ends.nil Lexer.Reads.nil).blanks hblanks
  rw [List.append_nil, ← hf] at read
  rw [read f.offset]
  simp

/-- **The value of a literal**, which is the same for every caller. -/
theorem runIn_evaluate_literal (hts : v.tokens?.isSome = true) :
    (evaluate call f).runIn s p = (.ok v.reread, p) := by
  obtain ⟨ts, hts⟩ := Option.isSome_iff_exists.mp hts
  have read := tokensFrom_literal hv hblanks hf
  rw [hts] at read
  obtain ⟨lexemes, hlexemes, rfl⟩ := Option.map_eq_some_iff.mp read
  obtain ⟨e, he, denotes⟩ := parse_literal hts f.span
  have found : Lexer.tokens f = .ok lexemes := by
    unfold Lexer.tokens
    cases hfrom : Lexer.tokensFrom (f.chars.length + 1) f.offset f.chars with
    | error flaw =>
        rw [hfrom] at hlexemes
        cases hlexemes
    | ok taken =>
        rw [hfrom] at hlexemes
        cases hlexemes
        cases lexemes with
        | nil => cases he
        | cons _ _ => rfl
  unfold evaluate nestedEvaluate evaluateWith
  rw [found, runIn_bind, ofFlaw, runIn_pure]
  dsimp only
  rw [runIn_bind, runIn_expandCalls_of_plain (Value.call?_of_mem_tokens? hts)]
  dsimp only
  rw [he, runIn_bind, ofFlaw, runIn_pure]
  exact denotes _ s p

/-- A literal without tokens has no value. -/
theorem runIn_evaluate_illegible (hts : v.tokens? = none) :
    ∃ fault, (evaluate call f).runIn s p = (.error fault, p) := by
  have read := tokensFrom_literal hv hblanks hf
  rw [hts, Option.map_eq_none_iff] at read
  unfold evaluate nestedEvaluate evaluateWith Lexer.tokens
  cases hfrom : Lexer.tokensFrom (f.chars.length + 1) f.offset f.chars with
  | error flaw => exact ⟨_, rfl⟩
  | ok taken =>
      rw [hfrom] at read
      cases read

end

/-- **Literals are readable.** A value without reals that is written as a literal and evaluated as an
expression, in any setting and progress, comes back as it was exactly if it is legible. -/
theorem evaluateTop_literal_iff {v : Value} (hreal : v.RealFree) (hkeys : v.Keyed) (s : Setting)
    (p : Progress) :
    ((evaluateTop (.ofString v.literal)).runIn s p).1 = .ok v ↔ v.Legible := by
  have noBlanks : ∀ c ∈ ([] : List Char), Text.isBlank c = true := List.forall_mem_nil _
  have whole : (Fragment.ofString v.literal).chars = [] ++ v.literal.toList := rfl
  have halves : v.Legible ↔ v.tokens?.isSome = true ∧ v.reread = v := by
    rw [Value.isSome_tokens?_iff hreal, Value.reread_eq_self_iff hkeys]
    exact ⟨fun h => ⟨fun part hpart => (h part hpart).1, fun part hpart => (h part hpart).2⟩,
      fun h part hpart => ⟨h.1 part hpart, h.2 part hpart⟩⟩
  rw [halves, evaluateTop, runIn_room]
  -- without tokens there is no value, and with tokens it is the reread one
  cases hts : v.tokens? with
  | none =>
      obtain ⟨fault, hfault⟩ : ∃ fault,
          (evaluate (callWith (s.limit - p.depth)) (.ofString v.literal)).runIn s p =
            (.error fault, p) :=
        runIn_evaluate_illegible hreal noBlanks whole hts
      rw [hfault]
      simp
  | some ts =>
      rw [runIn_evaluate_literal hreal noBlanks whole (by rw [hts]; rfl)]
      simp

/-- A mapping with a negative integer, a list and a text with a quote, a line feed and a brace. -/
theorem evaluateTop_literal_nested :
    let v := Value.mapping [("b", .int (-3)), ("a \"x\"", .list [.null, .bool true, .text "q\n\x7d"])]
    v.RealFree ∧ v.Keyed ∧ v.Legible ∧
      ∀ s p, ((evaluateTop (.ofString v.literal)).runIn s p).1 = .ok v := by
  intro v
  have hreal : v.RealFree := by decide
  have hkeys : v.Keyed := by decide
  have legible : v.Legible := by decide
  exact ⟨hreal, hkeys, legible, fun s p => (evaluateTop_literal_iff hreal hkeys s p).mpr legible⟩

end Expansion

end Fiction
