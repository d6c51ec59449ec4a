import Fiction.Pattern.Template
import Fiction.Proofs.Decimal
import Mathlib.Data.List.TakeWhile

/-!
# Fiction.Proofs.Pattern.Template

**Templates stand for what authors wrote.** There are two forms of templates with escape characters of
their own. A template is written in the one, brought into the other and filled in there.

* `Reads` says how a template is read as it is written, and `Marked` how one with dollar signs is read.
  `reads_iff` says that the first is what `pieces` computes.
* `Expander` is what has to be known of something that fills in templates with dollar signs. Only dollar
  signs in pairs and in front of numbers in braces have a known meaning, so nothing can be said of a
  template in which there are others. `engine` is the one in use.
* `marked_dollarForm`: in the form with dollar signs there are no others, and the pieces are those that
  were written.
-/

namespace Fiction.Template

variable {cs rest digits : List Char} {ps qs : List Piece}

/-! ## Digits -/

/-- A run of digits, at least one. -/
structure IsNumber (digits : List Char) : Prop where
  ne_nil : digits ≠ []
  digit : ∀ c ∈ digits, c.isDigit = true

/-! ## Templates as they are written -/

/-- The pieces of a template as it is written. Behind a backslash stand the number of a group, which
takes all digits there are, or a letter for a line feed or a tab, or another backslash. All other
characters stand for themselves, and so does a backslash in front of them. -/
inductive Reads : List Char → List Piece → Prop
  | nil : Reads [] []
  | group {digits rest : List Char} {ps : List Piece} : IsNumber digits →
      (∀ c ∈ rest.head?, c.isDigit = false) → Reads rest ps →
      Reads ('\\' :: (digits ++ rest)) (.group digits :: ps)
  | newline {rest : List Char} {ps : List Piece} : Reads rest ps →
      Reads ('\\' :: 'n' :: rest) (.char '\n' :: ps)
  | tab {rest : List Char} {ps : List Piece} : Reads rest ps →
      Reads ('\\' :: 't' :: rest) (.char '\t' :: ps)
  | backslash {rest : List Char} {ps : List Piece} : Reads rest ps →
      Reads ('\\' :: '\\' :: rest) (.char '\\' :: ps)
  | lone {rest : List Char} {ps : List Piece} :
      (∀ c ∈ rest.head?, c.isDigit = false ∧ c ∉ ['n', 't', '\\']) → Reads rest ps →
      Reads ('\\' :: rest) (.char '\\' :: ps)
  | itself {c : Char} {rest : List Char} {ps : List Piece} : c ≠ '\\' → Reads rest ps →
      Reads (c :: rest) (.char c :: ps)

theorem escaped?_eq_none_iff {c : Char} : escaped? c = none ↔ c ∉ ['n', 't', '\\'] := by
  unfold escaped?
  split <;> simp_all

theorem reads_pieces (cs : List Char) : Reads cs (pieces cs) := by
  fun_induction pieces cs with
  | case1 => exact .nil
  | case2 => exact .lone nofun .nil
  | case3 c cs digit ih =>
      have number : IsNumber (c :: cs.takeWhile Char.isDigit) :=
        ⟨List.cons_ne_nil _ _, List.forall_mem_cons.mpr ⟨digit, fun _ => List.mem_takeWhile_imp⟩⟩
      have ends : ∀ d ∈ (cs.dropWhile Char.isDigit).head?, d.isDigit = false := by
        intro d hd
        have := List.head?_dropWhile_not Char.isDigit cs
        rw [Option.mem_def.mp hd] at this
        simpa using this
      have read := Reads.group number ends ih
      rwa [List.cons_append, List.takeWhile_append_dropWhile] at read
  | case4 c cs _ d escape ih =>
      unfold escaped? at escape
      split at escape
      · cases escape
        exact .newline ih
      · cases escape
        exact .tab ih
      · cases escape
        exact .backslash ih
      · cases escape
  | case5 c cs digit escape ih =>
      refine .lone ?_ ih
      rintro _ ⟨⟩
      exact ⟨by simpa using digit, escaped?_eq_none_iff.mp escape⟩
  | case6 c cs single pair ih =>
      refine .itself ?_ ih
      rintro rfl
      cases cs with
      | nil => exact single rfl rfl
      | cons d cs => exact pair d cs rfl rfl

theorem Reads.eq_pieces (h : Reads cs ps) : ps = pieces cs := by
  induction h with
  | nil => rw [pieces]
  | @group digits rest ps number ends _ ih =>
      obtain ⟨d, ds, rfl⟩ := List.exists_cons_of_ne_nil number.ne_nil
      obtain ⟨first, others⟩ := List.forall_mem_cons.mp number.digit
      obtain ⟨taken, left⟩ := Decimal.takeWhile_isDigit_append others _ ends
      rw [List.cons_append, pieces, if_pos first, taken, left, ih]
  | newline _ ih | tab _ ih | backslash _ ih =>
      rw [pieces, if_neg (by decide), ih]
      rfl
  | @lone rest ps other _ ih =>
      cases rest with
      | nil =>
          rw [pieces] at ih
          rw [pieces, ih]
      | cons c rest =>
          obtain ⟨digit, escape⟩ := other c rfl
          rw [pieces, if_neg (by simp [digit]), escaped?_eq_none_iff.mpr escape, ih]
  | itself other _ ih =>
      rw [pieces, ih]
      · exact fun h _ => other h
      · exact fun _ _ h _ => other h

/-- `pieces` reads templates as they are written. -/
theorem reads_iff : Reads cs ps ↔ ps = pieces cs :=
  ⟨Reads.eq_pieces, fun h => h ▸ reads_pieces cs⟩

/-! ## Templates with dollar signs -/

/-- The pieces of a template with dollar signs, in which each of these is one of a pair or stands in
front of the number of a group in braces. -/
inductive Marked : List Char → List Piece → Prop
  | nil : Marked [] []
  | dollar {rest : List Char} {ps : List Piece} : Marked rest ps →
      Marked ('$' :: '$' :: rest) (.char '$' :: ps)
  | group {digits rest : List Char} {ps : List Piece} : IsNumber digits → Marked rest ps →
      Marked ('$' :: '\x7b' :: (digits ++ '\x7d' :: rest)) (.group digits :: ps)
  | itself {c : Char} {rest : List Char} {ps : List Piece} : c ≠ '$' → Marked rest ps →
      Marked (c :: rest) (.char c :: ps)

/-- The number of a group ends at its brace. -/
theorem IsNumber.span_brace (h : IsNumber digits) (rest : List Char) :
    (digits ++ '\x7d' :: rest).takeWhile Char.isDigit = digits ∧
      (digits ++ '\x7d' :: rest).dropWhile Char.isDigit = '\x7d' :: rest :=
  Decimal.takeWhile_isDigit_append h.digit _ (by rintro _ ⟨⟩; decide)

/-- Such a template has one reading. -/
theorem Marked.unique (hp : Marked cs ps) (hq : Marked cs qs) : qs = ps := by
  induction hp generalizing qs with
  | nil =>
      cases hq
      rfl
  | dollar _ ih =>
      cases hq with
      | dollar h => rw [ih h]
      | itself other => exact absurd rfl other
  | @group digits rest ps number _ ih =>
      generalize tail : digits ++ '\x7d' :: rest = cs at hq
      cases hq with
      | @group digits' rest' _ number' h =>
          obtain ⟨taken, left⟩ := number.span_brace rest
          obtain ⟨taken', left'⟩ := number'.span_brace rest'
          rw [tail] at taken left
          obtain rfl : digits' = digits := taken'.symm.trans taken
          obtain rfl : rest' = rest := (List.cons.inj (left'.symm.trans left)).2
          rw [ih h]
      | itself other => exact absurd rfl other
  | itself other _ ih =>
      cases hq with
      | dollar => exact absurd rfl other
      | group => exact absurd rfl other
      | itself _ h => rw [ih h]

/-- Something that fills in templates with dollar signs. What it makes of dollar signs that are neither
one of a pair nor in front of a number in braces is left open. -/
structure Expander where
  /-- Fills in the texts of groups; that of a group that does not exist is empty. -/
  fill : (Nat → List Char) → List Char → List Char
  fill_nil : ∀ group, fill group [] = []
  fill_dollar : ∀ group rest, fill group ('$' :: '$' :: rest) = '$' :: fill group rest
  fill_group : ∀ group {digits} rest, IsNumber digits →
    fill group ('$' :: '\x7b' :: (digits ++ '\x7d' :: rest)) =
      group (Decimal.ofDigits digits) ++ fill group rest
  fill_char : ∀ group {c} rest, c ≠ '$' → fill group (c :: rest) = c :: fill group rest

/-- All that is filled in are the pieces. -/
theorem Marked.fill_eq (h : Marked cs ps) (e : Expander) (group : Nat → List Char) :
    e.fill group cs = ps.flatMap (Piece.fill group) := by
  induction h with
  | nil => exact e.fill_nil group
  | dollar _ ih =>
      rw [e.fill_dollar, ih]
      rfl
  | group number _ ih =>
      rw [e.fill_group _ _ number, ih]
      rfl
  | itself other _ ih =>
      rw [e.fill_char _ _ other, ih]
      rfl

/-- `expand` fills in templates. -/
def engine : Expander where
  fill := expand
  fill_nil _ := by rw [expand]
  fill_dollar _ _ := by rw [expand]
  fill_group _ {digits} rest number := by
    obtain ⟨taken, left⟩ := number.span_brace rest
    obtain ⟨d, ds, rfl⟩ := List.exists_cons_of_ne_nil number.ne_nil
    rw [expand]
    split
    · next found behind =>
        rw [taken] at found
        rw [left] at behind
        cases found
        cases behind
        rfl
    · next other => exact (other d ds rest taken left).elim
  fill_char _ {c} rest other := by
    rw [expand]
    · exact fun _ h _ => other h
    · exact fun _ h _ => other h

/-! ## From one form to the other -/

/-- The number of a group is one. -/
def Piece.IsProper : Piece → Prop
  | .char _ => True
  | .group digits => IsNumber digits

theorem Reads.isProper (h : Reads cs ps) : ∀ p ∈ ps, p.IsProper := by
  induction h with
  | nil => exact nofun
  | group number _ _ ih => exact List.forall_mem_cons.mpr ⟨number, ih⟩
  | newline _ ih | tab _ ih | backslash _ ih | lone _ _ ih | itself _ _ ih =>
      exact List.forall_mem_cons.mpr ⟨trivial, ih⟩

/-- Pieces that are written with dollar signs are read again: neither a dollar sign that stands for itself
nor a digit or a brace behind a group becomes part of another piece. -/
theorem marked_write (h : ∀ p ∈ ps, p.IsProper) : Marked (ps.flatMap Piece.write) ps := by
  induction ps with
  | nil => exact .nil
  | cons p ps ih =>
      obtain ⟨first, others⟩ := List.forall_mem_cons.mp h
      rw [List.flatMap_cons]
      cases p with
      | char c =>
          rw [Piece.write]
          split
          · next dollar =>
              subst dollar
              exact .dollar (ih others)
          · next other => exact .itself other (ih others)
      | group digits =>
          have marked := Marked.group first (ih others)
          rwa [Piece.write, List.append_assoc, List.cons_append, List.cons_append]

theorem marked_dollarForm (cs : List Char) : Marked (dollarForm cs) (pieces cs) :=
  marked_write (reads_pieces cs).isProper

/-- **Templates stand for what authors wrote.** The pieces of a template, read as it is written, are the
pieces of its form with dollar signs. So whatever fills in that form gives the text that is read directly,
for all texts of groups, and no group is filled in that was not written. -/
theorem expand_dollarForm_eq_read (cs : List Char) :
    (∀ ps, Reads cs ps ↔ ps = pieces cs) ∧
      (∀ ps, Marked (dollarForm cs) ps ↔ ps = pieces cs) ∧
      (∀ (e : Expander) (group : Nat → List Char), e.fill group (dollarForm cs) = read group cs) ∧
      ∀ group : Nat → List Char, expand group (dollarForm cs) = read group cs := by
  have marked := marked_dollarForm cs
  refine ⟨fun ps => reads_iff, fun ps => ⟨marked.unique, ?_⟩, fun e group => marked.fill_eq e group,
    fun group => marked.fill_eq engine group⟩
  rintro rfl
  exact marked

end Fiction.Template
