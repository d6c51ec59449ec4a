import Fiction.Json.Quoted
import Mathlib.Data.Bool.AllAny

/-!
# Fiction.Proofs.Json.Quoted

**The three ways in which a character is written between quotes**: as it is, by a letter behind a
backslash, or by its code. `Escaped` says which characters are written in which way, and
`escape_escaped` that `escape` does so; whoever reads quoted texts is compared with it.
-/

namespace Fiction.Json

/-- The characters that are written by a letter behind a backslash, with their letters. -/
def letters : List (Char × Char) :=
  [('"', '"'), ('\\', '\\'), ('\n', 'n'), ('\t', 't'), ('\r', 'r'), ('\x08', 'b'), ('\x0c', 'f')]

/-- How a character is written between quotes. -/
inductive Escaped : Char → List Char → Prop
  | plain {c : Char} : 32 ≤ c.toNat → c ≠ '"' → c ≠ '\\' → Escaped c [c]
  | letter {c d : Char} : (c, d) ∈ letters → Escaped c ['\\', d]
  | code {c : Char} : c.toNat < 32 → (∀ d, (c, d) ∉ letters) →
      Escaped c ['\\', 'u', '0', '0', hexDigit (c.toNat / 16), hexDigit (c.toNat % 16)]

theorem escape_escaped (c : Char) : Escaped c (escape c) := by
  have backspace (h : c.toNat = 8) : c = '\x08' := Char.toNat_inj.mp h
  have formFeed (h : c.toNat = 12) : c = '\x0c' := Char.toNat_inj.mp h
  unfold escape
  split
  · next h => exact .letter (by simp [h, letters])
  split
  · next h => exact .letter (by simp [h, letters])
  split
  · next h => exact .letter (by simp [h, letters])
  split
  · next h => exact .letter (by simp [h, letters])
  split
  · next h => exact .letter (by simp [h, letters])
  split
  · next h => exact .letter (by simp [backspace h, letters])
  split
  · next h => exact .letter (by simp [formFeed h, letters])
  split
  · next quote slash feed tab cr back page control =>
      refine .code control fun d hd => ?_
      simp only [letters, List.mem_cons, Prod.mk.injEq, List.not_mem_nil, or_false] at hd
      rcases hd with h | h | h | h | h | h | h
      all_goals obtain ⟨rfl, -⟩ := h; contradiction
  · next quote slash _ _ _ _ _ visible => exact .plain (by omega) quote slash

/-- The digits of a code are neither quotes nor backslashes. -/
theorem hexDigit_plain {d : Nat} (h : d < 16) : hexDigit d ≠ '"' ∧ hexDigit d ≠ '\\' := by
  have all : ∀ d : Fin 16, hexDigit d ≠ '"' ∧ hexDigit d ≠ '\\' := by decide
  exact all ⟨d, h⟩

/-- No control is written between quotes. -/
theorem visible_of_mem_escape {c d : Char} (h : d ∈ escape c) : 32 ≤ d.toNat := by
  have letter : ∀ pair ∈ letters, 32 ≤ pair.2.toNat := List.all_iff_forall_prop.mp (by decide)
  have digit : ∀ n : Fin 16, 32 ≤ (hexDigit n).toNat := by decide
  have escaped := escape_escaped c
  generalize escape c = written at h escaped
  cases escaped with
  | plain visible _ _ => exact List.mem_singleton.mp h ▸ visible
  | letter pair =>
      simp only [List.mem_cons, List.not_mem_nil, or_false] at h
      rcases h with rfl | rfl
      · decide
      · exact letter _ pair
  | code control _ =>
      simp only [List.mem_cons, List.not_mem_nil, or_false] at h
      rcases h with rfl | rfl | rfl | rfl | rfl | rfl
      · decide
      · decide
      · decide
      · decide
      · exact digit ⟨c.toNat / 16, by omega⟩
      · exact digit ⟨c.toNat % 16, by omega⟩

@[simp] theorem escapeAll_nil : escapeAll [] = [] := rfl

@[simp] theorem escapeAll_cons (c : Char) (cs : List Char) :
    escapeAll (c :: cs) = escape c ++ escapeAll cs := rfl

@[simp] theorem toList_quote (s : String) : (quote s).toList = '"' :: (escapeAll s.toList ++ ['"']) := by
  rw [quote, String.toList_ofList]

end Fiction.Json
