import Fiction.Proofs.Markup.Extent
import Fiction.Proofs.Markup.Pieces

/-!
# Fiction.Proofs.Markup.TopLevel

**A text is divided at its top level in one way only.** Cutting a text at the delimiters outside of all
brackets, quotes and escapes leaves parts that cannot be cut further. Each part but the last ends where it
started, outside of everything, so the parts do not depend on each other.

* `Text.EndsOutside` says this of a text as a whole: escapes are taken out, then quoted texts, then brackets
  are counted. `Bracketing.after_eq_top_iff` compares it with the scan that goes over the text character by
  character.
* `Bracketing.splitTop_cases` takes the first part off a text, and `Bracketing.splitTop_append` puts it back.
* `Fragment.Division` collects what is asked of the parts of a fragment, with their positions.
  `Fragment.division_splitTop` and `Fragment.Division.eq_splitTop`: the parts that are found are a division,
  and there is no other.
-/

namespace Fiction

/-! ## Where a text ends -/

namespace Text

/-- A text without its escapes, that is, without backslashes and the characters behind them. There is none
if the text ends inside of an escape. -/
def unescaped? : List Char → Option (List Char)
  | [] => some []
  | ['\\'] => none
  | '\\' :: _ :: cs => unescaped? cs
  | c :: cs => (unescaped? cs).map (c :: ·)

/-- A text without its quoted texts and without the quotes. The flag tells that it starts inside of one. -/
def unquoted : (quoted : Bool) → List Char → List Char
  | _, [] => []
  | quoted, c :: cs =>
      if c = '"' then unquoted (!quoted) cs
      else if quoted then unquoted quoted cs
      else c :: unquoted quoted cs

/-- The number of open brackets behind a character. A bracket that closes nothing does not count. -/
def bracketed (depth : Nat) (c : Char) : Nat :=
  if c ∈ ['(', '[', '{'] then depth + 1
  else if c ∈ [')', ']', '}'] then depth - 1
  else depth

/-- A text ends outside of escapes, quotes and brackets. -/
def EndsOutside (cs : List Char) : Prop :=
  ∃ text, unescaped? cs = some text ∧ text.count '"' % 2 = 0 ∧ (unquoted false text).foldl bracketed 0 = 0

/-- A character that neither ends a text as a backslash nor escapes another is no backslash. -/
theorem ne_backslash {c : Char} {cs : List Char} (last : c = '\\' → cs = [] → False)
    (escape : ∀ d ds, c = '\\' → cs = d :: ds → False) : c ≠ '\\' := by
  intro slash
  cases cs with
  | nil => exact last slash rfl
  | cons d ds => exact escape d ds slash rfl

end Text

namespace Bracketing

/-- Outside of escapes a quote changes sides and other characters count outside of quotes. -/
theorem step_argument {c : Char} (h : c ≠ '\\') (depth : Nat) (quoted : Bool) :
    argument.step ⟨depth, quoted, false⟩ c =
      if c = '"' then ⟨depth, !quoted, false⟩
      else if quoted then ⟨depth, quoted, false⟩
      else ⟨Text.bracketed depth c, quoted, false⟩ := by
  by_cases quote : c = '"'
  · subst quote
    cases quoted <;> simp [step, argument]
  · cases quoted with
    | true => simp [step, h, quote]
    | false =>
        simp only [step, argument, Text.bracketed, h, quote, List.contains_iff_mem, if_false,
          Bool.false_eq_true]
        split
        · rfl
        · split <;> rfl

/-- A scan that starts outside of an escape ends in one if the text does. -/
theorem escaped_after {cs : List Char} (h : Text.unescaped? cs = none) (depth : Nat) (quoted : Bool) :
    (argument.after ⟨depth, quoted, false⟩ cs).escaped = true := by
  fun_induction Text.unescaped? cs generalizing depth quoted
  case case1 => cases h
  case case2 => rfl
  case case3 ih => exact ih h depth quoted
  case case4 c cs last escape ih =>
    have first := step_argument (Text.ne_backslash last escape) depth quoted
    change (argument.after (argument.step _ c) cs).escaped = true
    rw [first]
    have inner := Option.map_eq_none_iff.mp h
    split
    · exact ih inner depth (!quoted)
    · split
      · exact ih inner depth quoted
      · exact ih inner (Text.bracketed depth c) quoted

/-- If the text does not end in an escape, its quotes tell on which side of a quote the scan ends, and the
brackets outside of quotes tell how deep. -/
theorem after_of_unescaped {cs text : List Char} (h : Text.unescaped? cs = some text) (depth : Nat)
    (quoted : Bool) : argument.after ⟨depth, quoted, false⟩ cs =
      ⟨(Text.unquoted quoted text).foldl Text.bracketed depth, quoted != (text.count '"' % 2 == 1),
        false⟩ := by
  fun_induction Text.unescaped? cs generalizing depth quoted text
  case case1 =>
    cases h
    simp [after, Text.unquoted]
  case case2 => cases h
  case case3 ih => exact ih h depth quoted
  case case4 c cs last escape ih =>
    obtain ⟨inner, hinner, rfl⟩ := Option.map_eq_some_iff.mp h
    have first := step_argument (Text.ne_backslash last escape) depth quoted
    change argument.after (argument.step _ c) cs = _
    rw [first, Text.unquoted]
    split
    · next quote =>
        subst quote
        rw [ih hinner, List.count_cons_self]
        congr 1
        rcases Nat.mod_two_eq_zero_or_one (inner.count '"') with even | odd
        · simp [Nat.add_mod, even]
        · simp [Nat.add_mod, odd]
    · next quote =>
        rw [List.count_cons_of_ne quote]
        split
        · rw [ih hinner]
        · rw [ih hinner]
          rfl

/-- **The scan of a text ends outside of everything if the text does.** -/
theorem after_eq_top_iff {cs : List Char} : argument.after .top cs = .top ↔ Text.EndsOutside cs := by
  have start : Nesting.top = ⟨0, false, false⟩ := rfl
  unfold Text.EndsOutside
  cases h : Text.unescaped? cs with
  | none =>
      have inside := escaped_after h 0 false
      rw [start]
      constructor
      · intro top
        rw [top] at inside
        cases inside
      · rintro ⟨text, impossible, -⟩
        cases impossible
  | some text =>
      rw [start, after_of_unescaped h]
      simp [and_comm]

/-! ## The first part -/

section

variable {b : Bracketing} {delimiter : Char} {n : Nesting} (plain : b.isSpecial delimiter = false)

include plain

theorem cut_iff {c : Char} :
    (n.isTop && c == delimiter && !b.isSpecial c) = true ↔ n = .top ∧ c = delimiter := by
  have top : n.isTop = true ↔ n = .top := by
    obtain ⟨depth, quoted, escaped⟩ := n
    simp [Nesting.isTop, Nesting.isBare, Nesting.top]
  simp only [Bool.and_eq_true, beq_iff_eq, top, Bool.not_eq_true']
  constructor
  · exact fun h => h.1
  · rintro ⟨rfl, rfl⟩
    exact ⟨⟨rfl, rfl⟩, plain⟩

/-- The first part of a text is all of it, or it ends at a delimiter outside of everything and the rest is
divided from there. -/
theorem splitTop_cases (n : Nesting) (cs : List Char) :
    b.splitTop delimiter n cs = [cs] ∨ ∃ piece rest, cs = piece ++ delimiter :: rest ∧
      b.splitTop delimiter n piece = [piece] ∧ b.after n piece = .top ∧
      b.splitTop delimiter n cs = piece :: b.splitTop delimiter .top rest := by
  induction cs generalizing n with
  | nil => exact .inl rfl
  | cons c cs ih =>
      rw [splitTop]
      split
      · next cut =>
          obtain ⟨rfl, rfl⟩ := (cut_iff plain).mp cut
          exact .inr ⟨[], cs, rfl, rfl, rfl, rfl⟩
      · next through =>
          rcases ih (b.step n c) with whole | ⟨piece, rest, rfl, whole, closed, parts⟩
          · rw [whole]
            exact .inl rfl
          · refine .inr ⟨c :: piece, rest, rfl, ?_, closed, ?_⟩
            · rw [splitTop, if_neg through, whole]
              rfl
            · rw [parts]
              rfl

/-- **A part that ends outside of everything is a part in front of anything.** The scan of the part does not
depend on what is behind it, and behind the delimiter it starts anew. -/
theorem splitTop_append {piece : List Char} (whole : b.splitTop delimiter n piece = [piece])
    (closed : b.after n piece = .top) (rest : List Char) :
    b.splitTop delimiter n (piece ++ delimiter :: rest) =
      piece :: b.splitTop delimiter .top rest := by
  induction piece generalizing n with
  | nil =>
      obtain rfl : n = .top := closed
      rw [List.nil_append, splitTop, if_pos ((cut_iff plain).mpr ⟨rfl, rfl⟩)]
  | cons c piece ih =>
      rw [splitTop] at whole
      rw [List.cons_append, splitTop]
      split at whole
      · cases (List.cons.inj whole).1
      · next through =>
          have inner : b.splitTop delimiter (b.step n c) piece = [piece] := by
            obtain ⟨first, others, hparts⟩ :=
              List.exists_cons_of_ne_nil (b.splitTop_ne_nil delimiter (b.step n c) piece)
            rw [hparts] at whole ⊢
            obtain ⟨same, none⟩ := List.cons.inj whole
            rw [(List.cons.inj same).2, none]
          rw [if_neg through, ih inner closed]
          rfl

end

end Bracketing

namespace Fragment

variable {delimiter : Char} {f : Fragment} {parts : List Fragment}

/-- The text that some parts and the delimiters behind them take up. -/
def inFront (delimiter : Char) (parts : List Fragment) : List Char :=
  parts.flatMap fun part => part.chars ++ [delimiter]

/-- A way to divide a fragment. The parts, joined by the delimiter, are its text, and each stands where the
parts in front of it end. None of them can be divided again, and all but the last end outside of escapes,
quotes and brackets. -/
structure Division (delimiter : Char) (f : Fragment) (parts : List Fragment) : Prop where
  nonempty : parts ≠ []
  text : Text.join [delimiter] (parts.map Fragment.chars) = f.chars
  position : ∀ front part back, parts = front ++ part :: back →
    part.offset = f.offset + Text.byteLength (inFront delimiter front)
  whole : ∀ part ∈ parts, part.splitTop .argument delimiter = [part]
  closed : ∀ part ∈ parts.dropLast, Text.EndsOutside part.chars

theorem splitTop_eq_singleton {b : Bracketing} {offset : Nat} {cs : List Char} :
    splitTop b delimiter ⟨offset, cs⟩ = [⟨offset, cs⟩] ↔ b.splitTop delimiter .top cs = [cs] := by
  obtain ⟨first, rest, hparts⟩ := List.exists_cons_of_ne_nil (b.splitTop_ne_nil delimiter .top cs)
  rw [splitTop, hparts, place]
  cases rest with
  | nil => simp [place]
  | cons next rest => simp [place]

/-! ## The parts that are found -/

theorem Division.last (h : f.splitTop .argument delimiter = [f]) : Division delimiter f [f] where
  nonempty := List.cons_ne_nil _ _
  text := rfl
  position front part back hparts := by
    cases front with
    | nil =>
        cases hparts
        rfl
    | cons other front => simp at hparts
  whole := by simpa using h
  closed := by simp

/-- One more part in front. -/
theorem Division.cons {offset : Nat} {piece rest : List Char}
    (whole : Bracketing.argument.splitTop delimiter .top piece = [piece])
    (closed : Text.EndsOutside piece)
    (h : Division delimiter ⟨offset + Text.byteLength piece + delimiter.utf8Size, rest⟩ parts) :
    Division delimiter ⟨offset, piece ++ delimiter :: rest⟩ (⟨offset, piece⟩ :: parts) where
  nonempty := List.cons_ne_nil _ _
  text := by
    rw [List.map_cons, Text.join_cons_of_ne_nil _ _ (by simpa using h.nonempty), h.text]
    simp
  position front part back hparts := by
    cases front with
    | nil =>
        cases hparts
        rfl
    | cons first front =>
        obtain ⟨rfl, later⟩ := List.cons.inj hparts
        rw [h.position front part back later]
        simp [inFront, Nat.add_assoc]
  whole := List.forall_mem_cons.mpr ⟨splitTop_eq_singleton.mpr whole, h.whole⟩
  closed := by
    rw [List.dropLast_cons_of_ne_nil h.nonempty]
    exact List.forall_mem_cons.mpr ⟨closed, h.closed⟩

/-- **The parts that are found are a division.** By induction on the length of the text: behind the first
part the rest is divided as a text of its own. -/
theorem division_splitTop (plain : Bracketing.argument.isSpecial delimiter = false) (f : Fragment) :
    Division delimiter f (f.splitTop .argument delimiter) := by
  obtain ⟨offset, cs⟩ := f
  induction hn : cs.length using Nat.strong_induction_on generalizing offset cs with
  | _ n ih =>
      rcases Bracketing.splitTop_cases plain .top cs with whole | ⟨piece, rest, rfl, whole, closed, parts⟩
      · rw [splitTop_eq_singleton.mpr whole]
        exact .last (splitTop_eq_singleton.mpr whole)
      · rw [splitTop, parts, place]
        refine .cons whole (Bracketing.after_eq_top_iff.mp closed) (ih rest.length ?_ _ rest rfl)
        rw [← hn, List.length_append, List.length_cons]
        omega

/-! ## There are no others -/

/-- What is behind the first part of a division is divided by the other parts. -/
theorem Division.tail {first next : Fragment} (h : Division delimiter f (first :: next :: parts)) :
    ∃ rest, f = ⟨first.offset, first.chars ++ delimiter :: rest⟩ ∧ Division delimiter
      ⟨first.offset + Text.byteLength first.chars + delimiter.utf8Size, rest⟩ (next :: parts) := by
  obtain ⟨offset, cs⟩ := f
  obtain rfl : first.offset = offset := h.position [] first (next :: parts) rfl
  have text := h.text
  rw [List.map_cons, Text.join_cons_of_ne_nil _ _ (by simp), List.singleton_append] at text
  refine ⟨_, congrArg _ text.symm, List.cons_ne_nil _ _, rfl, ?_, ?_, ?_⟩
  · intro front part back hparts
    rw [h.position (first :: front) part back (congrArg _ hparts)]
    simp [inFront, Nat.add_assoc]
  · exact (List.forall_mem_cons.mp h.whole).2
  · have closed := h.closed
    rw [List.dropLast_cons_of_ne_nil (List.cons_ne_nil _ _)] at closed
    exact (List.forall_mem_cons.mp closed).2

/-- **A division consists of the parts that are found.** -/
theorem Division.eq_splitTop (plain : Bracketing.argument.isSpecial delimiter = false)
    (h : Division delimiter f parts) : parts = f.splitTop .argument delimiter := by
  induction parts generalizing f with
  | nil => exact absurd rfl h.nonempty
  | cons first parts ih =>
      have whole := (List.forall_mem_cons.mp h.whole).1
      cases parts with
      | nil =>
          obtain ⟨offset, cs⟩ := f
          obtain rfl : first.offset = offset := h.position [] first [] rfl
          obtain rfl : first.chars = cs := h.text
          exact whole.symm
      | cons next parts =>
          obtain ⟨rest, rfl, later⟩ := h.tail
          have closed : Text.EndsOutside first.chars := by
            refine h.closed first ?_
            rw [List.dropLast_cons_of_ne_nil (List.cons_ne_nil _ _)]
            exact List.mem_cons_self
          rw [splitTop, Bracketing.splitTop_append plain (splitTop_eq_singleton.mp whole)
            (Bracketing.after_eq_top_iff.mpr closed), place, ih later]
          rfl

/-- **Dividing a text at its top level is exact.** For a delimiter that is neither a backslash nor a quote
nor a bracket, the parts that are found are a division of the text, and they are its only division. -/
theorem division_iff_eq_splitTop {delimiter : Char}
    (h : delimiter ∉ ['\\', '"', '(', '[', '{', ')', ']', '}']) (f : Fragment) (parts : List Fragment) :
    Division delimiter f parts ↔ parts = f.splitTop .argument delimiter := by
  have plain : Bracketing.argument.isSpecial delimiter = false := by
    simp only [List.mem_cons, List.not_mem_nil, or_false, not_or] at h
    simp [Bracketing.isSpecial, Bracketing.argument, h]
  constructor
  · exact fun division => division.eq_splitTop plain
  · rintro rfl
    exact division_splitTop plain f

/-- Tildes behind a backslash, in quotes and in brackets, and brackets that do not match. -/
def tangle : Fragment :=
  ⟨7, "é\\~\\é~])(\"\x7d~\"[~)\x7d~~\"a\\\"~\\".toList⟩

theorem tangle_divided :
    '~' ∉ ['\\', '"', '(', '[', '{', ')', ']', '}'] ∧
      Division '~' tangle [⟨7, "é\\~\\é".toList⟩, ⟨15, "])(\"\x7d~\"[~)\x7d".toList⟩, ⟨27, []⟩,
        ⟨28, "\"a\\\"~\\".toList⟩] :=
  ⟨by decide, (division_iff_eq_splitTop (by decide) tangle _).mpr (by decide +kernel)⟩

end Fragment

end Fiction
