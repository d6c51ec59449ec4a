import Fiction.Text.Fragment
import Mathlib.Data.List.TakeWhile

/-!
# Fiction.Proofs.Text.Trim

**Trimming takes the blanks around a text and nothing else.**

* `Framed` says that a text starts and ends with something visible.
* `Framed.trim_surrounded`: of a framed text with blanks around it trimming leaves the framed text.
* `exists_trim_surrounded`: every text is what trimming leaves of it, with blanks around it.
-/

namespace Fiction

namespace Text

variable {cs front back : List Char}

/-! ## Framed texts -/

/-- The text starts and ends with something visible. -/
def Framed (cs : List Char) : Prop :=
  (∃ c ∈ cs.head?, isBlank c = false) ∧ ∃ c ∈ cs.getLast?, isBlank c = false

theorem framed_of_no_blanks (some : cs ≠ []) (h : ∀ c ∈ cs, isBlank c = false) : Framed cs :=
  ⟨⟨cs.head some, List.head?_eq_some_head some, h _ (List.head_mem some)⟩,
    ⟨cs.getLast some, List.getLast?_eq_some_getLast some, h _ (List.getLast_mem some)⟩⟩

theorem framed_of_ends {c d : Char} (hc : isBlank c = false) (hd : isBlank d = false)
    (cs : List Char) : Framed (c :: (cs ++ [d])) := by
  refine ⟨⟨c, rfl, hc⟩, ⟨d, ?_, hd⟩⟩
  rw [← List.cons_append, List.getLast?_concat]
  rfl

theorem Framed.append (hfront : Framed front) (hback : Framed back) (middle : List Char) :
    Framed (front ++ (middle ++ back)) := by
  obtain ⟨c, hc, first⟩ := hfront.1
  obtain ⟨d, hd, last⟩ := hback.2
  refine ⟨⟨c, ?_, first⟩, ⟨d, ?_, last⟩⟩
  · rw [List.head?_append, Option.mem_def.mp hc]
    rfl
  · rw [List.getLast?_append, List.getLast?_append, Option.mem_def.mp hd]
    rfl

/-! ## Trimming -/

theorem dropWhile_isBlank (h : ∃ c ∈ cs.head?, isBlank c = false) : cs.dropWhile isBlank = cs := by
  obtain ⟨c, hc, visible⟩ := h
  obtain ⟨ds, rfl⟩ := List.head?_eq_some_iff.mp hc
  exact List.dropWhile_cons_of_neg (by simp [visible])

theorem Framed.trimStart_eq (h : Framed cs) : trimStart cs = cs :=
  dropWhile_isBlank h.1

/-- **Blanks around a framed text are all that trimming takes.** -/
theorem Framed.trim_surrounded (h : Framed cs) (front back : List Char)
    (hfront : ∀ c ∈ front, isBlank c = true) (hback : ∀ c ∈ back, isBlank c = true) :
    trim (front ++ cs ++ back) = cs := by
  obtain ⟨c, hc, first⟩ := h.1
  have start : trimStart (front ++ cs ++ back) = cs ++ back := by
    rw [trimStart, List.append_assoc, List.dropWhile_append_of_pos hfront]
    refine dropWhile_isBlank ⟨c, ?_, first⟩
    rw [List.head?_append, Option.mem_def.mp hc]
    rfl
  rw [trim, start, trimEnd, List.reverse_append, List.dropWhile_append_of_pos (by simpa using hback),
    dropWhile_isBlank (by rw [List.head?_reverse]; exact h.2), List.reverse_reverse]

theorem Framed.trim_eq (h : Framed cs) : trim cs = cs := by
  simpa using h.trim_surrounded [] [] nofun nofun

theorem trim_of_no_blanks (h : ∀ c ∈ cs, isBlank c = false) : trim cs = cs := by
  by_cases some : cs = []
  · rw [some]
    rfl
  · exact (framed_of_no_blanks some h).trim_eq

/-- **A text is what trimming leaves of it, with blanks around it.** -/
theorem exists_trim_surrounded (cs : List Char) : ∃ back, (∀ c ∈ back, isBlank c = true) ∧
    cs = cs.takeWhile isBlank ++ trim cs ++ back := by
  refine ⟨((trimStart cs).reverse.takeWhile isBlank).reverse, fun c hc => ?_, ?_⟩
  · exact List.mem_takeWhile_imp (List.mem_reverse.mp hc)
  · rw [List.append_assoc, trim, trimEnd, ← List.reverse_append, List.takeWhile_append_dropWhile,
      List.reverse_reverse, trimStart, List.takeWhile_append_dropWhile]

theorem mem_of_mem_trim {c : Char} (h : c ∈ trim cs) : c ∈ cs := by
  obtain ⟨back, -, whole⟩ := exists_trim_surrounded cs
  rw [whole]
  exact List.mem_append_left _ (List.mem_append_right _ h)

/-- What is not blank stays at the start of a text, and trimming takes blanks from the end only. -/
theorem trim_cons {c : Char} (hc : isBlank c = false) (cs : List Char) :
    ∃ ds blanks, (∀ b ∈ blanks, isBlank b = true) ∧ trim (c :: cs) = c :: ds ∧
      c :: cs = c :: ds ++ blanks := by
  obtain ⟨blanks, hblanks, whole⟩ := exists_trim_surrounded (c :: cs)
  rw [List.takeWhile_cons_of_neg (by simp [hc]), List.nil_append] at whole
  cases left : trim (c :: cs) with
  | nil =>
      rw [left, List.nil_append] at whole
      have blank := hblanks c (whole ▸ List.mem_cons_self)
      rw [hc] at blank
      cases blank
  | cons d ds =>
      rw [left] at whole
      obtain rfl : c = d := (List.cons.inj whole).1
      exact ⟨ds, blanks, hblanks, rfl, whole⟩

end Text

namespace Fragment

/-- Only the blanks in front move the position. -/
theorem trim_surrounded {cs : List Char} (h : Text.Framed cs) (offset : Nat) (front back : List Char)
    (hfront : ∀ c ∈ front, Text.isBlank c = true) (hback : ∀ c ∈ back, Text.isBlank c = true) :
    trim ⟨offset, front ++ cs ++ back⟩ = ⟨offset + Text.byteLength front, cs⟩ := by
  obtain ⟨c, hc, first⟩ := h.1
  obtain ⟨ds, rfl⟩ := List.head?_eq_some_iff.mp hc
  have taken : (front ++ c :: ds ++ back).takeWhile Text.isBlank = front := by
    rw [List.append_assoc, List.takeWhile_append_of_pos hfront, List.cons_append,
      List.takeWhile_cons_of_neg (by simp [first]), List.append_nil]
  rw [trim, h.trim_surrounded front back hfront hback, taken]

theorem trim_of_framed {f : Fragment} (h : Text.Framed f.chars) : f.trim = f := by
  simpa using trim_surrounded h f.offset [] [] nofun nofun

end Fragment

end Fiction
