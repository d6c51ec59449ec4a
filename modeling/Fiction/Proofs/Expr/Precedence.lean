import Fiction.Proofs.Expr.Unbounded

/-!
# Fiction.Proofs.Expr.Precedence

**Binding powers implement the table of precedence.** A chain of operands with operators between them
can be grouped in many ways. The table of precedence allows one of them, and the parser finds it.

* `Operator.level` is the table, and `Expr.Grouped` says of a tree that its operands respect it.
* `Parser.readExpression_of_grouped`: the parser finds every grouped tree whose tokens it is given. The
  induction is on the tree; the operator at its top decides which operators may follow it.
* `Expr.exists_grouped`: every chain can be grouped. An operand and an operator that are put in front of
  a grouped tree go down its left side to where they belong.

As the parser has one result, the grouped tree is the only one.
-/

namespace Fiction

/-! ## The table -/

namespace Operator

/-- The level of an operator in the table, the loosest first. Level 3 is `not`, level 8 the signs and
level 10 indexing. -/
def level : Operator → Nat
  | or => 1
  | and => 2
  | equal | unequal | less | greater | atMost | atLeast => 4
  | bar | ampersand => 5
  | plus | minus | dot => 6
  | times | slash | doubleSlash | percent | doublePercent | caret | doubleCaret => 7
  | power => 9

/-- An operator may stand at the top of the left operand of this one: operators of a level group to the
left, but for `**`. -/
def AllowsLeft (op inner : Operator) : Prop :=
  if op = power then op.level < inner.level else op.level ≤ inner.level

/-- An operator may stand at the top of the right operand of this one. -/
def AllowsRight (op inner : Operator) : Prop :=
  if op = power then op.level ≤ inner.level else op.level < inner.level

instance (op inner : Operator) : Decidable (op.AllowsLeft inner) :=
  inferInstanceAs (Decidable (if op = power then op.level < inner.level else op.level ≤ inner.level))

instance (op inner : Operator) : Decidable (op.AllowsRight inner) :=
  inferInstanceAs (Decidable (if op = power then op.level ≤ inner.level else op.level < inner.level))

/-- Binding powers are read off the table. -/
theorem binding_eq (op : Operator) :
    (op = power ∧ op.level = 9 ∧ op.binding = (18, 17)) ∨
      (op ≠ power ∧ 1 ≤ op.level ∧ op.level ≤ 7 ∧ op.binding = (2 * op.level - 1, 2 * op.level)) := by
  cases op <;> decide

variable {op inner : Operator}

/-- An operator that may stand in the left operand holds its own left operand as tightly, and lets
go of its right one. -/
theorem AllowsLeft.binding (h : op.AllowsLeft inner) :
    op.binding.1 ≤ inner.binding.1 ∧ op.binding.1 < inner.binding.2 := by
  unfold AllowsLeft at h
  rcases op.binding_eq with ⟨rfl, hlevel, hbinding⟩ | ⟨hop, hlow, hhigh, hbinding⟩
  · rcases inner.binding_eq with ⟨rfl, -⟩ | ⟨-, -, hinner, -⟩
    · simp at h
    · rw [if_pos rfl] at h
      omega
  · rw [if_neg hop] at h
    rcases inner.binding_eq with ⟨-, -, hinner⟩ | ⟨-, -, -, hinner⟩
    · rw [hbinding, hinner]
      dsimp only
      omega
    · rw [hbinding, hinner]
      dsimp only
      omega

/-- An operator that may stand in the right operand is read as part of it, and holds its own right
operand as tightly. -/
theorem AllowsRight.binding (h : op.AllowsRight inner) :
    op.binding.2 ≤ inner.binding.1 ∧ op.binding.2 ≤ inner.binding.2 := by
  unfold AllowsRight at h
  rcases op.binding_eq with ⟨rfl, hlevel, hbinding⟩ | ⟨hop, hlow, hhigh, hbinding⟩
  · rw [if_pos rfl] at h
    rcases inner.binding_eq with ⟨rfl, -, hinner⟩ | ⟨-, -, hinner, -⟩
    · rw [hinner]
      decide
    · omega
  · rw [if_neg hop] at h
    rcases inner.binding_eq with ⟨-, -, hinner⟩ | ⟨-, -, -, hinner⟩
    · rw [hbinding, hinner]
      dsimp only
      omega
    · rw [hbinding, hinner]
      dsimp only
      omega

/-- Of two operators one may stand in an operand of the other. -/
theorem allowsLeft_of_not_allowsRight (h : ¬ op.AllowsRight inner) : inner.AllowsLeft op := by
  unfold AllowsRight at h
  unfold AllowsLeft
  rcases op.binding_eq with ⟨rfl, hlevel, -⟩ | ⟨hop, hlow, hhigh, -⟩
  · rw [if_pos rfl] at h
    rcases inner.binding_eq with ⟨rfl, -⟩ | ⟨hinner, -⟩
    · exact absurd (Nat.le_refl _) h
    · rw [if_neg hinner]
      omega
  · rw [if_neg hop] at h
    rcases inner.binding_eq with ⟨-, hinner, -⟩ | ⟨hinner, -⟩
    · omega
    · rw [if_neg hinner]
      omega

end Operator

/-! ## Chains and trees -/

/-- Operands with operators between them. -/
inductive Alternating : List Lexeme → Prop
  | last {operand : Lexeme} : operand.leaf?.isSome = true → Alternating [operand]
  | cons {operand : Lexeme} {op : Operator} {place : Span} {rest : List Lexeme} :
      operand.leaf?.isSome = true → Alternating rest →
      Alternating (operand :: ⟨.operator op, place⟩ :: rest)

namespace Expr

/-- The operator between the operands of an expression. -/
def operator? : Expr → Option Operator
  | .binary _ op _ _ _ => some op
  | _ => none

/-- The tokens of a tree of binary operators, from left to right. -/
inductive InOrder : Expr → List Lexeme → Prop
  | leaf {lexeme : Lexeme} {x : Expr} : lexeme.leaf? = some x → InOrder x [lexeme]
  | binary {span place : Span} {op : Operator} {left right : Expr} {front back : List Lexeme} :
      InOrder left front → InOrder right back →
      InOrder (.binary span op place left right) (front ++ ⟨.operator op, place⟩ :: back)

/-- All operands respect the table of precedence. -/
def Grouped : Expr → Prop
  | .binary _ op _ left right =>
      (∀ inner ∈ left.operator?, op.AllowsLeft inner) ∧
        (∀ inner ∈ right.operator?, op.AllowsRight inner) ∧ left.Grouped ∧ right.Grouped
  | _ => True

/-- The same tree with the ranges of its binary operators found from those of the operands. -/
def joined : Expr → Expr
  | .binary _ op place left right =>
      .binary (left.joined.span.join right.joined.span) op place left.joined right.joined
  | e => e

variable {e : Expr} {tokens : List Lexeme}

theorem operator?_of_leaf {lexeme : Lexeme} (h : lexeme.leaf? = some e) : e.operator? = none := by
  unfold Lexeme.leaf? at h
  split at h
  · cases h
    rfl
  · split at h
    · cases h
      rfl
    · cases h
  · cases h
    rfl
  · cases h

theorem joined_of_operator? (h : e.operator? = none) : e.joined = e := by
  cases e with
  | binary => cases h
  | _ => rfl

theorem grouped_of_operator? (h : e.operator? = none) : e.Grouped := by
  cases e with
  | binary => cases h
  | _ => trivial

theorem operator?_joined (e : Expr) : e.joined.operator? = e.operator? := by
  cases e <;> rfl

theorem InOrder.joined (h : e.InOrder tokens) : e.joined.InOrder tokens := by
  induction h with
  | leaf h =>
      rw [joined_of_operator? (operator?_of_leaf h)]
      exact .leaf h
  | binary _ _ left right => exact .binary left right

theorem Grouped.joined (order : e.InOrder tokens) (h : e.Grouped) : e.joined.Grouped := by
  induction order with
  | leaf leaf => exact grouped_of_operator? (by rw [operator?_joined, operator?_of_leaf leaf])
  | @binary _ _ op left right _ _ _ _ ihl ihr =>
      obtain ⟨hleft, hright, groupedLeft, groupedRight⟩ := h
      refine ⟨?_, ?_, ihl groupedLeft, ihr groupedRight⟩
      · rwa [operator?_joined]
      · rwa [operator?_joined]

/-- The tokens of a tree start with an operand. -/
theorem InOrder.exists_leaf (h : e.InOrder tokens) :
    ∃ lexeme rest, tokens = lexeme :: rest ∧ lexeme.leaf?.isSome = true := by
  induction h with
  | leaf h => exact ⟨_, [], rfl, by rw [h]; rfl⟩
  | binary _ _ ih _ =>
      obtain ⟨lexeme, rest, rfl, leaf⟩ := ih
      exact ⟨lexeme, _, rfl, leaf⟩

/-! ## Every chain can be grouped -/

/-- An operand and an operator in front of a grouped tree. The operator is at the top then, or what was
there before. -/
theorem exists_grouped_cons {lexeme : Lexeme} {x : Expr} (op : Operator) (place : Span)
    (leaf : lexeme.leaf? = some x) (order : e.InOrder tokens) (grouped : e.Grouped) :
    ∃ new : Expr, new.InOrder (lexeme :: ⟨.operator op, place⟩ :: tokens) ∧ new.Grouped ∧
      (new.operator? = some op ∨ new.operator? = e.operator?) := by
  have alone := operator?_of_leaf leaf
  -- the operator goes above the tree if it may have the tree as its right operand
  have above {e : Expr} {tokens : List Lexeme} (order : e.InOrder tokens) (grouped : e.Grouped)
      (h : ∀ inner ∈ e.operator?, op.AllowsRight inner) :
      ∃ new : Expr, new.InOrder (lexeme :: ⟨.operator op, place⟩ :: tokens) ∧ new.Grouped ∧
        (new.operator? = some op ∨ new.operator? = e.operator?) := by
    refine ⟨.binary place op place x e, .binary (.leaf leaf) order, ⟨?_, h, ?_, grouped⟩, .inl rfl⟩
    · simp [alone]
    · exact grouped_of_operator? alone
  induction order with
  | leaf leaf' => exact above (.leaf leaf') grouped (by simp [operator?_of_leaf leaf'])
  | @binary span _ top left right front back order order' ih _ =>
      by_cases h : op.AllowsRight top
      · exact above (.binary order order') grouped (by simpa [operator?] using h)
      · obtain ⟨hleft, hright, groupedLeft, groupedRight⟩ := grouped
        obtain ⟨new, orderNew, groupedNew, hnew⟩ := ih groupedLeft
        refine ⟨.binary span top _ new right, .binary orderNew order',
          ⟨?_, hright, groupedNew, groupedRight⟩, .inr rfl⟩
        rcases hnew with hnew | hnew
        · rw [hnew]
          rintro _ ⟨⟩
          exact Operator.allowsLeft_of_not_allowsRight h
        · rwa [hnew]

theorem exists_grouped (h : Alternating tokens) : ∃ e : Expr, e.InOrder tokens ∧ e.Grouped := by
  induction h with
  | last leaf =>
      obtain ⟨x, hx⟩ := Option.isSome_iff_exists.mp leaf
      exact ⟨x, .leaf hx, grouped_of_operator? (operator?_of_leaf hx)⟩
  | @cons _ op place _ leaf _ ih =>
      obtain ⟨x, hx⟩ := Option.isSome_iff_exists.mp leaf
      obtain ⟨e, order, grouped⟩ := ih
      obtain ⟨new, order, grouped, -⟩ := exists_grouped_cons op place hx order grouped
      exact ⟨new, order, grouped⟩

end Expr

/-! ## The parser finds every grouped tree -/

namespace Parser

/-- What follows an expression does not belong to its last operand: it is an operator that holds less
tightly than the one at the top. -/
def Follows (e : Expr) (rest : List Lexeme) : Prop :=
  ∀ lexeme ∈ rest.head?, ∃ op, lexeme.token = .operator op ∧
    ∀ top ∈ e.operator?, op.binding.1 < top.binding.2

theorem ends_of_follows {e : Expr} {top : Operator} {rest : List Lexeme} (h : Follows e rest)
    (htop : e.operator? = some top) : Ends top.binding.2 rest := by
  intro lexeme hlexeme
  obtain ⟨op, token, looser⟩ := h lexeme hlexeme
  rw [token, goesOn]
  exact decide_eq_false (Nat.not_le.mpr (looser top htop))

theorem nextIs_of_follows {e : Expr} {rest : List Lexeme} (h : Follows e rest) (mark : Mark) :
    nextIs mark rest = false := by
  cases rest with
  | nil => rfl
  | cons lexeme rest =>
      obtain ⟨op, token, -⟩ := h lexeme rfl
      rw [nextIs, token]
      rfl

/-- **A grouped tree is found in its tokens**, whatever follows that does not belong to it. -/
theorem readExpression_of_grouped {stop least : Nat} {e : Expr} {tokens rest : List Lexeme}
    (order : e.InOrder tokens) (grouped : e.Grouped)
    (hleast : ∀ top ∈ e.operator?, least ≤ top.binding.1) (hrest : Follows e rest) :
    readExpression stop least (tokens ++ rest) = readOperators stop least e.joined rest := by
  induction order generalizing least rest with
  | leaf leaf =>
      rw [List.singleton_append, readExpression_eq, readOperand_leaf leaf,
        Expr.joined_of_operator? (Expr.operator?_of_leaf leaf)]
      rfl
  | @binary span place op left right front back orderLeft orderRight ihl ihr =>
      obtain ⟨hleft, hright, groupedLeft, groupedRight⟩ := grouped
      have holds : least ≤ op.binding.1 := hleast op rfl
      -- the left operand ends at the operator
      have first : readExpression stop least (front ++ (⟨.operator op, place⟩ :: (back ++ rest))) =
          readOperators stop least left.joined (⟨.operator op, place⟩ :: (back ++ rest)) := by
        refine ihl groupedLeft (fun inner hinner => ?_) ?_
        · exact holds.trans (hleft inner hinner).binding.1
        · rintro _ ⟨⟩
          exact ⟨op, rfl, fun inner hinner => (hleft inner hinner).binding.2⟩
      -- the right one ends where the whole does
      have second : readExpression stop op.binding.2 (back ++ rest) = .ok (right.joined, rest) := by
        rw [ihr groupedRight (fun inner hinner => (hright inner hinner).binding.1)]
        · exact readOperators_of_ends (ends_of_follows hrest rfl)
        · intro lexeme hlexeme
          obtain ⟨next, token, looser⟩ := hrest lexeme hlexeme
          exact ⟨next, token, fun inner hinner =>
            (looser op rfl).trans_le (hright inner hinner).binding.2⟩
      have operation : readInfixed stop left.joined op place (back ++ rest) =
          .ok ((Expr.binary span op place left right).joined, rest) := by
        rw [readInfixed_operation, second]
        · simp only [bind, Except.bind, nextIs_of_follows hrest, Bool.and_false, Bool.false_eq_true,
            if_false]
          rfl
        · obtain ⟨lexeme, behind, rfl, leaf⟩ := orderRight.exists_leaf
          rintro rfl _ ⟨⟩ fold token
          simp [Lexeme.leaf?, token] at leaf
      rw [List.append_assoc, List.cons_append, first, readOperators_operator rfl holds, operation]
      rfl

/-- **The parser implements the table of precedence.** Operands with operators between them, any number
of them, make up a tree in which the tokens stand in their order and all operands respect the table: a
left operand has an operator of the same level or a tighter one at its top and a right operand a tighter
one, and the other way round for `**`. There is no other such tree, the ranges of its operators apart,
and these are joined from those of the operands. -/
theorem parse_follows_precedence {tokens : List Lexeme} (h : Alternating tokens) (whole : Span) :
    ∃ tree, parse tokens whole = .ok tree ∧ tree.InOrder tokens ∧ tree.Grouped ∧
      ∀ other : Expr, other.InOrder tokens → other.Grouped → other.joined = tree := by
  have parsed {e : Expr} (order : e.InOrder tokens) (grouped : e.Grouped) :
      parse tokens whole = .ok e.joined := by
    obtain ⟨first, rest, rfl, -⟩ := order.exists_leaf
    refine parse_of_read (List.cons_ne_nil _ _) ?_
    have found : readExpression whole.stop 0 (first :: rest ++ []) =
        readOperators whole.stop 0 e.joined [] :=
      readExpression_of_grouped order grouped (fun _ _ => Nat.zero_le _) nofun
    rw [List.append_nil] at found
    rw [found]
    rfl
  obtain ⟨e, order, grouped⟩ := Expr.exists_grouped h
  refine ⟨e.joined, parsed order grouped, order.joined, grouped.joined order, ?_⟩
  intro other orderOther groupedOther
  exact Except.ok.inj ((parsed orderOther groupedOther).symm.trans (parsed order grouped))

/-- The tokens of `2 ** x ** 3 - 4 - y`. -/
def difference : List Lexeme :=
  [⟨.value (.int 2), ⟨0, 1⟩⟩, ⟨.operator .power, ⟨2, 4⟩⟩, ⟨.name "x", ⟨5, 6⟩⟩,
    ⟨.operator .power, ⟨7, 9⟩⟩, ⟨.value (.int 3), ⟨10, 11⟩⟩, ⟨.operator .minus, ⟨12, 13⟩⟩,
    ⟨.value (.int 4), ⟨14, 15⟩⟩, ⟨.operator .minus, ⟨16, 17⟩⟩, ⟨.name "y", ⟨18, 19⟩⟩]

/-- The tree of `((2 ** (x ** 3)) - 4) - y`. -/
def differenceTree : Expr :=
  .binary ⟨0, 19⟩ .minus ⟨16, 17⟩
    (.binary ⟨0, 15⟩ .minus ⟨12, 13⟩
      (.binary ⟨0, 11⟩ .power ⟨2, 4⟩ (.literal ⟨0, 1⟩ (.int 2))
        (.binary ⟨5, 11⟩ .power ⟨7, 9⟩ (.lookup ⟨5, 6⟩ ⟨"x", []⟩) (.literal ⟨10, 11⟩ (.int 3))))
      (.literal ⟨14, 15⟩ (.int 4)))
    (.lookup ⟨18, 19⟩ ⟨"y", []⟩)

/-- Powers group to the right and differences to the left. -/
theorem difference_follows_precedence :
    Alternating difference ∧ parse difference ⟨0, 19⟩ = .ok differenceTree := by
  have alternating : Alternating difference :=
    .cons rfl (.cons rfl (.cons rfl (.cons rfl (.last rfl))))
  have int (n : Int64) (s : Span) : Expr.InOrder (.literal s (.int n)) [⟨.value (.int n), s⟩] :=
    .leaf rfl
  have x : Expr.InOrder (.lookup ⟨5, 6⟩ ⟨"x", []⟩) [⟨.name "x", ⟨5, 6⟩⟩] := .leaf rfl
  have y : Expr.InOrder (.lookup ⟨18, 19⟩ ⟨"y", []⟩) [⟨.name "y", ⟨18, 19⟩⟩] := .leaf rfl
  have order : differenceTree.InOrder difference :=
    .binary (.binary (.binary (int 2 _) (.binary x (int 3 _))) (int 4 _)) y
  have grouped : differenceTree.Grouped := by
    simp [differenceTree, Expr.Grouped, Expr.operator?, Operator.AllowsLeft, Operator.AllowsRight,
      Operator.level]
  obtain ⟨tree, parsed, -, -, only⟩ := parse_follows_precedence alternating ⟨0, 19⟩
  rw [parsed, ← only differenceTree order grouped]
  exact ⟨alternating, rfl⟩

end Parser

end Fiction
