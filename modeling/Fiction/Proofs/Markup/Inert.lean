import Fiction.Proofs.Decimal
import Fiction.Proofs.Json.Quoted
import Fiction.Proofs.Markup.Extent
import Fiction.Proofs.Value.Parts
import Fiction.Value.Printer

/-!
# Fiction.Proofs.Markup.Inert

**Literals are inert**: neither the scanner that looks for the end of a call nor the one that cuts
arguments apart stops inside of them.

* `Inert` texts have no tilde and no parenthesis outside of quotes, their quotes are closed and their
  brackets match.
* `Markup.takeCall_inert` and `Bracketing.splitTop_inert` pass over such a text as a whole.
* `Value.inert_literal`: whatever texts a value holds, its literal is inert.
-/

namespace Fiction

/-! ## Passing over a text -/

/-- The characters at which the scanners stop, if they are not quoted or escaped. -/
def isStop (c : Char) : Bool :=
  c == '~' || c == ')'

/-- Going over a text from one nesting to another, no stop stands where it counts. -/
def Bracketing.Passes (b : Bracketing) : Nesting → List Char → Nesting → Prop
  | n, [], m => n = m
  | n, c :: cs, m => (n.isBare && isStop c) = false ∧ Passes b (b.step n c) cs m

namespace Bracketing.Passes

variable {b : Bracketing} {n m k : Nesting} {cs ds : List Char}

theorem append (h : b.Passes n cs m) (h' : b.Passes m ds k) : b.Passes n (cs ++ ds) k := by
  induction cs generalizing n with
  | nil => exact h ▸ h'
  | cons c cs ih => exact ⟨h.1, ih h.2⟩

end Bracketing.Passes

/-- The end of a call is looked for behind a text that is passed over. -/
theorem Markup.takeCall_of_passes {n m : Nesting} {cs : List Char}
    (h : Bracketing.call.Passes n cs m) (rest : List Char) :
    takeCall n (cs ++ rest) = (takeCall m rest).map fun taken => (cs ++ taken.1, taken.2) := by
  induction cs generalizing n with
  | nil =>
      rw [h]
      simp
  | cons c cs ih =>
      obtain ⟨stop, later⟩ := h
      have open_ : ¬ (n.isBare && c == ')' && decide (n.depth ≤ 1)) = true := by
        simp only [isStop, Bool.and_eq_false_iff, Bool.or_eq_false_iff] at stop
        rcases stop with h | h
        · simp [h]
        · simp [h.2]
      rw [List.cons_append, takeCall, if_neg open_, ih later, Option.map_map]
      rfl

/-- A text that is passed over is part of the argument it stands in. -/
theorem Bracketing.splitTop_of_passes {n m : Nesting} {cs : List Char}
    (h : Bracketing.argument.Passes n cs m) (rest : List Char) :
    Bracketing.argument.splitTop '~' n (cs ++ rest) =
      cs.foldr Text.consPiece (Bracketing.argument.splitTop '~' m rest) := by
  induction cs generalizing n with
  | nil =>
      rw [h]
      rfl
  | cons c cs ih =>
      obtain ⟨stop, later⟩ := h
      have open_ : ¬ (n.isTop && c == '~' && !Bracketing.argument.isSpecial c) = true := by
        simp only [isStop, Bool.and_eq_false_iff, Bool.or_eq_false_iff] at stop
        rcases stop with h | h
        · simp [Nesting.isTop, h]
        · simp [h.1]
      rw [List.cons_append, splitTop, if_neg open_, ih later]
      rfl

/-! ## Inert texts -/

/-- The characters that mean something to the scanners. -/
def activeChars : List Char :=
  ['~', '(', ')', '[', ']', '{', '}', '"', '\\']

/-- A character of which something holds that holds of no active one. -/
theorem not_mem_activeChars {P : Char → Bool} (h : activeChars.any P = false) {c : Char}
    (hc : P c = true) : c ∉ activeChars :=
  fun active => List.any_eq_false.mp h c active hc

/-- Texts without tilde and parenthesis outside of quotes, whose quotes are closed and whose brackets
match. -/
inductive Inert : List Char → Prop
  | nil : Inert []
  | plain {c : Char} {cs : List Char} : c ∉ activeChars → Inert cs → Inert (c :: cs)
  | quoted {text cs : List Char} : Inert cs → Inert ('"' :: (Json.escapeAll text ++ '"' :: cs))
  | bracketed {pair : Char × Char} {inner cs : List Char} : pair ∈ [('[', ']'), ('{', '}')] →
      Inert inner → Inert cs → Inert (pair.1 :: (inner ++ pair.2 :: cs))

theorem Inert.append {cs ds : List Char} (h : Inert cs) (h' : Inert ds) : Inert (cs ++ ds) := by
  induction h with
  | nil => exact h'
  | plain hc _ ih => exact .plain hc ih
  | quoted _ ih =>
      rw [List.cons_append, List.append_assoc, List.cons_append]
      exact .quoted ih
  | bracketed hpair inner _ _ ih =>
      rw [List.cons_append, List.append_assoc, List.cons_append]
      exact .bracketed hpair inner ih

theorem Inert.of_plain {cs : List Char} (h : ∀ c ∈ cs, c ∉ activeChars) : Inert cs := by
  induction cs with
  | nil => exact .nil
  | cons c cs ih =>
      rw [List.forall_mem_cons] at h
      exact .plain h.1 (ih h.2)

theorem Inert.of_all {cs : List Char} (h : cs.all (· ∉ activeChars) = true) : Inert cs :=
  .of_plain (List.all_iff_forall_prop.mp h)

namespace Bracketing.Passes

variable {b : Bracketing}

/-- Inside of quotes nothing stops, and the quotes stay open. -/
theorem escape (b : Bracketing) (d : Nat) (c : Char) :
    b.Passes ⟨d, true, false⟩ (Json.escape c) ⟨d, true, false⟩ := by
  have quoted {c : Char} (hquote : c ≠ '"') (hslash : c ≠ '\\') :
      b.step ⟨d, true, false⟩ c = ⟨d, true, false⟩ := by
    simp [Bracketing.step, hquote, hslash]
  have escaped (c : Char) : b.step (b.step ⟨d, true, false⟩ '\\') c = ⟨d, true, false⟩ := by
    simp [Bracketing.step]
  have written := Json.escape_escaped c
  generalize Json.escape c = cs at written
  cases written with
  | plain _ hquote hslash => exact ⟨rfl, quoted hquote hslash⟩
  | letter _ => exact ⟨rfl, rfl, escaped _⟩
  | code control _ =>
      obtain ⟨hquote₁, hslash₁⟩ := Json.hexDigit_plain (d := c.toNat / 16) (by omega)
      obtain ⟨hquote₂, hslash₂⟩ := Json.hexDigit_plain (d := c.toNat % 16) (by omega)
      refine ⟨rfl, rfl, ?_⟩
      rw [escaped]
      refine ⟨rfl, ?_⟩
      rw [quoted (by decide) (by decide)]
      refine ⟨rfl, ?_⟩
      rw [quoted (by decide) (by decide)]
      refine ⟨rfl, ?_⟩
      rw [quoted hquote₁ hslash₁]
      exact ⟨rfl, quoted hquote₂ hslash₂⟩

theorem escapeAll (b : Bracketing) (d : Nat) (text : List Char) :
    b.Passes ⟨d, true, false⟩ (Json.escapeAll text) ⟨d, true, false⟩ := by
  induction text with
  | nil => rfl
  | cons c text ih => exact (escape b d c).append ih

/-- **Inert texts are passed over**, and the nesting behind them is the one in front. -/
theorem inert (hb : b ∈ [.argument, .call]) {cs : List Char} (h : Inert cs) (d : Nat) :
    b.Passes ⟨d, false, false⟩ cs ⟨d, false, false⟩ := by
  induction h generalizing d with
  | nil => rfl
  | @plain c cs hc _ ih =>
      simp only [activeChars, List.mem_cons, List.not_mem_nil, or_false, not_or] at hc
      have plain : b.isSpecial c = false := by
        simp only [List.mem_cons, List.not_mem_nil, or_false] at hb
        rcases hb with rfl | rfl
        all_goals simp [isSpecial, argument, call, hc]
      refine ⟨by simp [isStop, hc], ?_⟩
      rw [step_plain rfl plain]
      exact ih d
  | quoted _ ih =>
      have opened : b.step ⟨d, false, false⟩ '"' = ⟨d, true, false⟩ := by
        simp only [List.mem_cons, List.not_mem_nil, or_false] at hb
        rcases hb with rfl | rfl
        all_goals rfl
      refine ⟨rfl, ?_⟩
      rw [opened]
      exact (escapeAll b d _).append ⟨rfl, ih d⟩
  | @bracketed pair inner cs hpair _ _ passInner ih =>
      -- to a call these brackets are plain text, and in arguments they nest
      obtain ⟨level, opened, closed⟩ : ∃ level, b.step ⟨d, false, false⟩ pair.1 = ⟨level, false, false⟩ ∧
          b.step ⟨level, false, false⟩ pair.2 = ⟨d, false, false⟩ := by
        simp only [List.mem_cons, List.not_mem_nil, or_false] at hb hpair
        rcases hb with rfl | rfl <;> rcases hpair with rfl | rfl
        · exact ⟨d + 1, rfl, rfl⟩
        · exact ⟨d + 1, rfl, rfl⟩
        · exact ⟨d, rfl, rfl⟩
        · exact ⟨d, rfl, rfl⟩
      have noStop : ∀ pair ∈ [('[', ']'), ('{', '}')],
          isStop pair.1 = false ∧ isStop pair.2 = false := by decide
      have stops := noStop pair hpair
      refine ⟨stops.1, ?_⟩
      rw [opened]
      refine (passInner level).append ⟨stops.2, ?_⟩
      rw [closed]
      exact ih d

end Bracketing.Passes

/-- The end of a call is not inside of an inert text. -/
theorem Markup.takeCall_inert {cs : List Char} (h : Inert cs) (d : Nat) (rest : List Char) :
    takeCall ⟨d, false, false⟩ (cs ++ rest) =
      (takeCall ⟨d, false, false⟩ rest).map fun taken => (cs ++ taken.1, taken.2) :=
  takeCall_of_passes (.inert (by decide) h d) rest

/-- An inert text is part of one argument. -/
theorem Bracketing.splitTop_inert {cs : List Char} (h : Inert cs) (rest : List Char) :
    Bracketing.argument.splitTop '~' .top (cs ++ rest) =
      cs.foldr Text.consPiece (Bracketing.argument.splitTop '~' .top rest) :=
  splitTop_of_passes (.inert (by decide) h 0) rest

/-! ## Literals -/

namespace Value

theorem inert_quote (s : String) : Inert (Json.quote s).toList := by
  rw [Json.toList_quote]
  exact .quoted .nil

theorem inert_ofInt (n : Int) : Inert (Decimal.ofInt n).toList := by
  have digits (k : Nat) : Inert (String.ofList (Decimal.digits k)).toList := by
    rw [String.toList_ofList]
    refine .of_plain fun c hc => ?_
    exact not_mem_activeChars (by decide) (Decimal.isDigit_of_mem_digits hc)
  cases n with
  | ofNat k => exact digits k
  | negSucc k =>
      have sign : Inert "-".toList := .of_all (by decide)
      rw [Decimal.ofInt, String.toList_append]
      exact sign.append (digits (k + 1))

theorem inert_literalItems {items : List Value} (ih : ∀ v ∈ items, Inert v.literal.toList) :
    Inert (literalItems items).toList := by
  induction items with
  | nil => exact .nil
  | cons v items more =>
      rw [List.forall_mem_cons] at ih
      cases items with
      | nil => exact ih.1
      | cons w items =>
          have separator : Inert ", ".toList := .of_all (by decide)
          rw [literalItems, String.toList_append, String.toList_append]
          · exact (ih.1.append separator).append (more ih.2)
          · exact nofun

theorem inert_literalEntries {entries : List (String × Value)}
    (ih : ∀ entry ∈ entries, Inert entry.2.literal.toList) :
    Inert (literalEntries entries).toList := by
  have colon : Inert ": ".toList := .of_all (by decide)
  have separator : Inert ", ".toList := .of_all (by decide)
  induction entries with
  | nil => exact .nil
  | cons entry entries more =>
      obtain ⟨key, v⟩ := entry
      rw [List.forall_mem_cons] at ih
      have first : Inert ((Json.quote key).toList ++ ": ".toList ++ v.literal.toList) :=
        ((inert_quote key).append colon).append ih.1
      cases entries with
      | nil =>
          rw [literalEntries, String.toList_append, String.toList_append]
          exact first
      | cons next entries =>
          rw [literalEntries]
          · simp only [String.toList_append]
            exact (first.append separator).append (more ih.2)
          · exact nofun

/-- **Literals are inert**, whatever texts they hold. -/
theorem inert_literal {v : Value} (hv : v.RealFree) : Inert v.literal.toList := by
  induction v with
  | null => exact .of_all (by decide)
  | bool b => cases b <;> exact .of_all (by decide)
  | int n => exact inert_ofInt n.toInt
  | real x => exact absurd rfl (hv (.real x) (by simp [parts]))
  | text s => exact inert_quote s
  | list items ih =>
      have inner := inert_literalItems fun v hmem => ih v hmem ((forall_parts_list.mp hv).2 v hmem)
      rw [literal, String.toList_append, String.toList_append]
      exact @Inert.bracketed ('[', ']') _ _ (by decide) inner .nil
  | mapping entries ih =>
      have inner := inert_literalEntries fun entry hmem =>
        ih entry hmem ((forall_parts_mapping.mp hv).2 entry hmem)
      rw [literal, String.toList_append, String.toList_append]
      exact @Inert.bracketed ('{', '}') _ _ (by decide) inner .nil

end Value

end Fiction
