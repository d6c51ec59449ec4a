import Fiction.Proofs.Expr.Pieces

/-!
# Fiction.Proofs.Expr.Bounds

**The bounds on the recursion of the lexer and the parser are never reached.**

* `Lexer.tokensFrom_bound`: every token has a character, so any bound above the length of the text
  gives the same tokens.
* `Parser.boundedAll`: in the parser every third level passes a token, so any two bounds of three
  times the number of tokens give the same result. `Parser.expression_bound` is this for the bound
  that `Parser.parse` uses.
-/

namespace Fiction

/-- Sequences are the same if what follows a success is the same. -/
theorem Outcome.bind_congr {ε α β : Type} {x : Except ε α} {f g : α → Except ε β}
    (h : ∀ a, x = .ok a → f a = g a) : x >>= f = x >>= g := by
  cases x with
  | ok a => exact h a rfl
  | error e => rfl

/-! ## The lexer -/

namespace Lexer

/-- A bound above the length of the text is as good as any other. -/
theorem tokensFrom_bound {n m offset : Nat} {cs : List Char} (hn : cs.length < n)
    (hm : cs.length < m) : tokensFrom n offset cs = tokensFrom m offset cs := by
  induction n generalizing m offset cs with
  | zero => omega
  | succ n ih =>
      obtain ⟨m, rfl⟩ : ∃ k, m = k + 1 := ⟨m - 1, by omega⟩
      rw [tokensFrom, tokensFrom]
      have blanks : (cs.dropWhile Text.isBlank).length ≤ cs.length :=
        (List.dropWhile_suffix _).length_le
      dsimp only
      split
      · rfl
      · next c rest hd =>
          rw [hd] at blanks
          refine Outcome.bind_congr fun found hnext => ?_
          have behind := ((next_sound _ _ _).of_ok hnext).1.length_le
          rw [List.length_cons] at blanks
          have tail (stop : Nat) : tokensFrom n stop found.2 = tokensFrom m stop found.2 :=
            ih (by omega) (by omega)
          rw [tail]

end Lexer

/-! ## The parser -/

theorem Expr.all_trivial (e : Expr) : e.All (fun _ => True) (fun _ => True) :=
  e.all_of_forall (fun _ => trivial) fun _ => trivial

namespace Parser

/-- What is left is no longer than what there was. -/
theorem Takes.length_le {α : Type} {placed : Span → Prop} {P : α → Prop} {tokens : List Lexeme}
    {x : Except Flaw (Parsed α)} {read : Parsed α} (h : Takes placed P tokens x) (hx : x = .ok read) :
    read.2.length ≤ tokens.length :=
  (Reads.of_ok h hx).2.length_le

/-- The parser, without anything being known of the tokens. -/
theorem takesAny (stop n : Nat) : TakesAll (fun _ => True) (fun _ => True) stop n :=
  takesAll trivial (fun _ _ => trivial) n

theorem all_trivial (tokens : List Lexeme) :
    ∀ t ∈ tokens, t.All (fun _ => True) (fun _ => True) :=
  fun _ _ => ⟨trivial, trivial⟩

theorem expression_length_le {stop n least : Nat} {tokens : List Lexeme} {read : Parsed Expr}
    (h : expression stop n least tokens = .ok read) : read.2.length ≤ tokens.length :=
  ((takesAny stop n).expression (all_trivial _)).length_le h

theorem expect_length_le {stop : Nat} {m : Mark} {what : String} {tokens : List Lexeme}
    {read : Parsed Span} (h : expect stop m what tokens = .ok read) :
    read.2.length ≤ tokens.length :=
  (expect_takes trivial (all_trivial _) _ _).length_le h

/-- Two bounds on the recursion of the parser that are both enough for the tokens give the same
results. -/
structure BoundedAll (stop n m : Nat) : Prop where
  expression : ∀ {least tokens}, 3 * tokens.length + 2 ≤ n → 3 * tokens.length + 2 ≤ m →
    expression stop n least tokens = expression stop m least tokens
  operators : ∀ {least left tokens}, 3 * tokens.length + 1 ≤ n → 3 * tokens.length + 1 ≤ m →
    operators stop n least left tokens = operators stop m least left tokens
  operand : ∀ {tokens}, 3 * tokens.length + 1 ≤ n → 3 * tokens.length + 1 ≤ m →
    operand stop n tokens = operand stop m tokens
  infixed : ∀ {left op place tokens}, 3 * tokens.length + 3 ≤ n → 3 * tokens.length + 3 ≤ m →
    infixed stop n left op place tokens = infixed stop m left op place tokens
  each : ∀ {left tokens}, 3 * tokens.length + 3 ≤ n → 3 * tokens.length + 3 ≤ m →
    each stop n left tokens = each stop m left tokens
  items : ∀ {tokens}, 3 * tokens.length + 3 ≤ n → 3 * tokens.length + 3 ≤ m →
    items stop n tokens = items stop m tokens
  entries : ∀ {tokens}, 3 * tokens.length + 3 ≤ n → 3 * tokens.length + 3 ≤ m →
    entries stop n tokens = entries stop m tokens

theorem length_drop_of_nextIs {mark : Mark} {tokens : List Lexeme} (h : nextIs mark tokens = true) :
    (tokens.drop 1).length + 1 = tokens.length := by
  cases tokens with
  | nil => cases h
  | cons _ _ => rfl

section

variable {stop n m : Nat} (ih : BoundedAll stop n m)

include ih

theorem expression_bounded {least : Nat} {tokens : List Lexeme}
    (hn : 3 * tokens.length + 2 ≤ n + 1) (hm : 3 * tokens.length + 2 ≤ m + 1) :
    expression stop (n + 1) least tokens = expression stop (m + 1) least tokens := by
  rw [expression, expression, ih.operand (by omega) (by omega)]
  refine Outcome.bind_congr fun found hfound => ?_
  have left := ((takesAny stop m).operand (all_trivial _)).length_le hfound
  exact ih.operators (by omega) (by omega)

theorem operators_bounded {least : Nat} {left : Expr} {tokens : List Lexeme}
    (hn : 3 * tokens.length + 1 ≤ n + 1) (hm : 3 * tokens.length + 1 ≤ m + 1) :
    operators stop (n + 1) least left tokens = operators stop (m + 1) least left tokens := by
  cases tokens with
  | nil => rfl
  | cons lexeme tokens =>
      rw [List.length_cons] at hn hm
      rw [operators, operators]
      split
      · split
        · rfl
        · rw [ih.expression (by omega) (by omega)]
          refine Outcome.bind_congr fun found hfound => ?_
          have index := expression_length_le hfound
          refine Outcome.bind_congr fun closed hclosed => ?_
          have close := expect_length_le hclosed
          exact ih.operators (by omega) (by omega)
      · split
        · rfl
        · rw [ih.each (by omega) (by omega)]
          refine Outcome.bind_congr fun found hfound => ?_
          have body := ((takesAny stop m).each left.all_trivial (all_trivial _)).length_le hfound
          exact ih.operators (by omega) (by omega)
      · split
        · rfl
        · rw [ih.infixed (by omega) (by omega)]
          refine Outcome.bind_congr fun found hfound => ?_
          have right :=
            ((takesAny stop m).infixed left.all_trivial trivial (all_trivial _)).length_le hfound
          exact ih.operators (by omega) (by omega)
      · rfl

theorem operand_bounded {tokens : List Lexeme} (hn : 3 * tokens.length + 1 ≤ n + 1)
    (hm : 3 * tokens.length + 1 ≤ m + 1) :
    operand stop (n + 1) tokens = operand stop (m + 1) tokens := by
  cases tokens with
  | nil => rfl
  | cons lexeme tokens =>
      rw [List.length_cons] at hn hm
      -- whatever the token is, all that is read stands behind it
      have inner (least : Nat) : expression stop n least tokens = expression stop m least tokens :=
        ih.expression (by omega) (by omega)
      rw [operand, operand, ih.items (by omega) (by omega), ih.entries (by omega) (by omega)]
      simp only [inner]

theorem infixed_bounded {left : Expr} {op : Operator} {place : Span} {tokens : List Lexeme}
    (hn : 3 * tokens.length + 3 ≤ n + 1) (hm : 3 * tokens.length + 3 ≤ m + 1) :
    infixed stop (n + 1) left op place tokens = infixed stop (m + 1) left op place tokens := by
  have inner {least : Nat} {later : List Lexeme} (h : later.length ≤ tokens.length) :
      expression stop n least later = expression stop m least later :=
    ih.expression (by omega) (by omega)
  unfold infixed
  split
  · -- behind `|` the right side is read twice, with the operator in front of it and without
    next fold span tokens =>
      rw [inner (Nat.le_refl _), inner (List.suffix_cons _ _).length_le]
  · rw [inner (Nat.le_refl _)]
    refine Outcome.bind_congr fun found hfound => ?_
    obtain ⟨right, after⟩ := found
    have behind : after.length ≤ tokens.length := expression_length_le hfound
    have third := (List.drop_suffix 1 after).length_le
    dsimp only
    rw [inner (by omega)]

theorem each_bounded {left : Expr} {tokens : List Lexeme} (hn : 3 * tokens.length + 3 ≤ n + 1)
    (hm : 3 * tokens.length + 3 ≤ m + 1) :
    each stop (n + 1) left tokens = each stop (m + 1) left tokens := by
  unfold each
  split
  · rfl
  · rw [ih.expression (by omega) (by omega)]

theorem items_bounded {tokens : List Lexeme} (hn : 3 * tokens.length + 3 ≤ n + 1)
    (hm : 3 * tokens.length + 3 ≤ m + 1) : items stop (n + 1) tokens = items stop (m + 1) tokens := by
  rw [items, items, ih.expression (by omega) (by omega)]
  split
  · rfl
  · refine Outcome.bind_congr fun found hfound => ?_
    obtain ⟨item, after⟩ := found
    have behind : after.length ≤ tokens.length := expression_length_le hfound
    dsimp only
    split
    · next comma =>
        have shorter := length_drop_of_nextIs comma
        rw [ih.items (by omega) (by omega)]
    · rfl

theorem entries_bounded {tokens : List Lexeme} (hn : 3 * tokens.length + 3 ≤ n + 1)
    (hm : 3 * tokens.length + 3 ≤ m + 1) :
    entries stop (n + 1) tokens = entries stop (m + 1) tokens := by
  rw [entries, entries, ih.expression (by omega) (by omega)]
  split
  · rfl
  · refine Outcome.bind_congr fun found hfound => ?_
    obtain ⟨key, afterKey⟩ := found
    have behindKey : afterKey.length ≤ tokens.length := expression_length_le hfound
    refine Outcome.bind_congr fun colon hcolon => ?_
    have behindColon := expect_length_le hcolon
    dsimp only at behindColon ⊢
    rw [ih.expression (by omega) (by omega)]
    refine Outcome.bind_congr fun value hvalue => ?_
    obtain ⟨value, afterValue⟩ := value
    have behindValue : afterValue.length ≤ colon.2.length := expression_length_le hvalue
    dsimp only
    split
    · next comma =>
        have shorter := length_drop_of_nextIs comma
        rw [ih.entries (by omega) (by omega)]
    · rfl

end

/-- By induction on one of the bounds; the other one goes down with it. -/
theorem boundedAll (stop n m : Nat) : BoundedAll stop n m := by
  induction n generalizing m with
  | zero => constructor <;> intros <;> omega
  | succ n ih =>
      cases m with
      | zero => constructor <;> intros <;> omega
      | succ m =>
          exact ⟨expression_bounded (ih m), operators_bounded (ih m), operand_bounded (ih m),
            infixed_bounded (ih m), each_bounded (ih m), items_bounded (ih m), entries_bounded (ih m)⟩

/-- Any bound above that of `parse` gives what that one gives. -/
theorem expression_bound (stop least : Nat) {n : Nat} {tokens : List Lexeme}
    (h : depthFor tokens ≤ n) :
    expression stop n least tokens = expression stop (depthFor tokens) least tokens := by
  unfold depthFor at h ⊢
  exact (boundedAll stop n _).expression (by omega) (by omega)

end Parser

end Fiction
