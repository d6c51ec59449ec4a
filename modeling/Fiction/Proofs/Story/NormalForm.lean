import Fiction.Proofs.Path
import Fiction.Proofs.Story.Manuscript
import Mathlib.Data.List.Chain

/-!
# Fiction.Proofs.Story.NormalForm

**Manuscripts have a normal form.** Line ends can be written in four ways, and comments can be left
out; what is read is the same.

* `Text.replaceAll_cons` says what replacing does to the next character, and from it `unifyLines` is
  known for each way to write line ends.
* `IsNormal` says what a text in normal form is. `normalize_isNormal` gives such a text, and
  `normalize_of_isNormal` leaves it alone.
-/

namespace Fiction

/-! ## Replacing -/

namespace Text

variable {needle replacement : List Char}

theorem replaceAll_nil (h : needle ≠ []) : replaceAll needle replacement [] = [] := by
  rw [replaceAll, if_neg (by simpa using h)]
  rfl

/-- Replacing goes from left to right and passes over what it replaces. -/
theorem replaceAll_cons (h : needle ≠ []) (c : Char) (cs : List Char) :
    replaceAll needle replacement (c :: cs) =
      if needle.isPrefixOf (c :: cs) then
        replacement ++ replaceAll needle replacement (cs.drop (needle.length - 1))
      else c :: replaceAll needle replacement cs := by
  have nonempty : ¬ needle.isEmpty = true := by simpa using h
  simp only [replaceAll, if_neg nonempty]
  rw [split_cons]
  split
  · rw [join_cons_of_ne_nil _ _ (split_ne_nil _ _), List.nil_append]
  · rw [join_consPiece]

/-- A text without a character of what is looked for stays as it is. -/
theorem replaceAll_of_not_mem {d : Char} (hd : d ∈ needle) {cs : List Char} (h : d ∉ cs) :
    replaceAll needle replacement cs = cs := by
  have nonempty : needle ≠ [] := List.ne_nil_of_mem hd
  induction cs with
  | nil => exact replaceAll_nil nonempty
  | cons c cs ih =>
      have absent : ¬ needle.isPrefixOf (c :: cs) = true := fun found =>
        h ((List.isPrefixOf_iff_prefix.mp found).subset hd)
      rw [replaceAll_cons nonempty, if_neg absent, ih fun later => h (List.mem_cons_of_mem c later)]

/-- Replacing one character by another. -/
theorem replaceAll_singleton (a b : Char) (cs : List Char) :
    replaceAll [a] [b] cs = cs.map fun c => if c = a then b else c := by
  induction cs with
  | nil => exact replaceAll_nil (List.cons_ne_nil _ _)
  | cons c cs ih =>
      rw [replaceAll_cons (List.cons_ne_nil _ _), List.map_cons, ← ih]
      by_cases same : c = a
      · simp [same]
      · simp [same, Ne.symm same]

end Text

namespace Manuscript

/-! ## Line ends -/

/-- The text with its line ends written in another way. -/
def withLineEnds (ending cs : List Char) : List Char :=
  cs.flatMap fun c => if c = '\n' then ending else [c]

/-- The ways to write a line end besides the line feed. -/
def lineEnds : List (List Char) :=
  [['\r', '\n'], ['\n', '\r'], ['\r']]

theorem withLineEnds_feed (ending cs : List Char) :
    withLineEnds ending ('\n' :: cs) = ending ++ withLineEnds ending cs := by
  simp [withLineEnds]

theorem withLineEnds_cons {c : Char} (hc : c ≠ '\n') (ending cs : List Char) :
    withLineEnds ending (c :: cs) = c :: withLineEnds ending cs := by
  simp [withLineEnds, hc]

theorem unifyLines_of_no_return {cs : List Char} (h : '\r' ∉ cs) : unifyLines cs = cs := by
  unfold unifyLines
  dsimp only
  rw [Text.replaceAll_of_not_mem (by decide) h, Text.replaceAll_of_not_mem (by decide) h,
    Text.replaceAll_of_not_mem (by decide) h]

theorem return_not_mem_unifyLines (cs : List Char) : '\r' ∉ unifyLines cs := by
  unfold unifyLines
  dsimp only
  rw [Text.replaceAll_singleton]
  intro found
  obtain ⟨c, -, hc⟩ := List.mem_map.mp found
  split at hc
  · exact absurd hc (by decide)
  · next other => exact other hc

/-- The first replacement takes the returns of all line ends but the first of a run, and the second
takes that one. So it matters whether a line feed stands in front. -/
theorem replace_return_feed {cs : List Char} (h : '\r' ∉ cs) :
    Text.replaceAll ['\r', '\n'] ['\n']
        (Text.replaceAll ['\n', '\r'] ['\n'] (withLineEnds ['\r', '\n'] cs)) = cs ∧
      ∃ rest, Text.replaceAll ['\n', '\r'] ['\n'] ('\n' :: withLineEnds ['\r', '\n'] cs) =
          '\n' :: rest ∧
        Text.replaceAll ['\r', '\n'] ['\n'] rest = cs := by
  have pair {a b : Char} : [a, b] ≠ [] := List.cons_ne_nil _ _
  induction cs with
  | nil => exact ⟨rfl, [], rfl, rfl⟩
  | cons c cs ih =>
      rw [List.mem_cons, not_or] at h
      obtain ⟨whole, rest, hrest, behind⟩ := ih h.2
      by_cases feed : c = '\n'
      · subst feed
        rw [withLineEnds_feed, List.cons_append, List.singleton_append]
        constructor
        · rw [Text.replaceAll_cons pair, if_neg (by simp), hrest, Text.replaceAll_cons pair,
            if_pos (by simp)]
          simp [behind]
        · refine ⟨'\n' :: rest, ?_, ?_⟩
          · rw [Text.replaceAll_cons pair, if_pos (by simp), List.length_cons]
            simp [hrest]
          · rw [Text.replaceAll_cons pair, if_neg (by simp), behind]
      · have other : '\r' ≠ c := h.1
        have next : Text.replaceAll ['\n', '\r'] ['\n'] (c :: withLineEnds ['\r', '\n'] cs) =
            c :: Text.replaceAll ['\n', '\r'] ['\n'] (withLineEnds ['\r', '\n'] cs) := by
          rw [Text.replaceAll_cons pair, if_neg (by simp [Ne.symm feed])]
        have kept : Text.replaceAll ['\r', '\n'] ['\n']
            (c :: Text.replaceAll ['\n', '\r'] ['\n'] (withLineEnds ['\r', '\n'] cs)) = c :: cs := by
          rw [Text.replaceAll_cons pair, if_neg (by simp [other]), whole]
        rw [withLineEnds_cons feed]
        refine ⟨by rw [next, kept], _, ?_, kept⟩
        rw [Text.replaceAll_cons pair, if_neg (by simp [other]), next]

theorem replace_feed_return {cs : List Char} (h : '\r' ∉ cs) :
    Text.replaceAll ['\n', '\r'] ['\n'] (withLineEnds ['\n', '\r'] cs) = cs := by
  have pair : ['\n', '\r'] ≠ [] := List.cons_ne_nil _ _
  induction cs with
  | nil => rfl
  | cons c cs ih =>
      rw [List.mem_cons, not_or] at h
      by_cases feed : c = '\n'
      · subst feed
        rw [withLineEnds_feed, List.cons_append, List.singleton_append, Text.replaceAll_cons pair,
          if_pos (by simp)]
        simp [ih h.2]
      · rw [withLineEnds_cons feed, Text.replaceAll_cons pair, if_neg (by simp [Ne.symm feed]),
          ih h.2]

theorem replace_return {cs : List Char} (h : '\r' ∉ cs) :
    Text.replaceAll ['\r'] ['\n'] (withLineEnds ['\r'] cs) = cs := by
  rw [Text.replaceAll_singleton]
  induction cs with
  | nil => rfl
  | cons c cs ih =>
      rw [List.mem_cons, not_or] at h
      by_cases feed : c = '\n'
      · subst feed
        simp [withLineEnds_feed, ih h.2]
      · simp [withLineEnds_cons feed, ih h.2, Ne.symm h.1]

theorem feed_not_mem_withLineEnds {ending : List Char} (h : '\n' ∉ ending) (cs : List Char) :
    '\n' ∉ withLineEnds ending cs := by
  intro found
  obtain ⟨c, -, hc⟩ := List.mem_flatMap.mp found
  split at hc
  · exact h hc
  · next other => exact other (List.mem_singleton.mp hc).symm

/-- However line ends are written, they become line feeds, one for each. -/
theorem unifyLines_withLineEnds {ending cs : List Char} (hending : ending ∈ lineEnds)
    (h : '\r' ∉ cs) : unifyLines (withLineEnds ending cs) = cs := by
  have rest : ∀ needle ∈ [['\r', '\n'], ['\r']], Text.replaceAll needle ['\n'] cs = cs := by
    simp [Text.replaceAll_of_not_mem _ h]
  unfold unifyLines
  dsimp only
  simp only [lineEnds, List.mem_cons, List.not_mem_nil, or_false] at hending
  rcases hending with rfl | rfl | rfl
  · rw [(replace_return_feed h).1, rest _ (by simp)]
  · rw [replace_feed_return h, rest _ (by simp), rest _ (by simp)]
  · have single := feed_not_mem_withLineEnds (show '\n' ∉ ['\r'] by decide) cs
    rw [Text.replaceAll_of_not_mem (by decide) single, Text.replaceAll_of_not_mem (by decide) single,
      replace_return h]

/-! ## Comments -/

/-- No two backquotes stand next to each other. -/
def NoComment (cs : List Char) : Prop :=
  cs.IsChain fun a b => ¬ (a = '\x60' ∧ b = '\x60')

theorem dropComment_start (cs : List Char) : dropComment cs <+: cs := by
  induction cs with
  | nil => exact List.prefix_rfl
  | cons c cs ih =>
      rw [dropComment]
      split
      · exact List.nil_prefix
      · exact (List.prefix_cons_inj c).mpr ih

theorem dropComment_noComment (cs : List Char) : NoComment (dropComment cs) := by
  induction cs with
  | nil => exact .nil
  | cons c cs ih =>
      rw [dropComment]
      split
      · exact .nil
      · next plain =>
          refine ih.cons fun d hd => ?_
          rintro ⟨rfl, rfl⟩
          -- the line goes on with the character that is kept behind this one
          obtain ⟨tail, htail⟩ := List.head?_eq_some_iff.mp hd
          obtain ⟨rest, hrest⟩ := dropComment_start cs
          rw [htail] at hrest
          exact plain (by simp [← hrest])

theorem dropComment_of_noComment {cs : List Char} (h : NoComment cs) : dropComment cs = cs := by
  induction cs with
  | nil => rfl
  | cons c cs ih =>
      rw [dropComment, if_neg, ih h.tail]
      cases cs with
      | nil => simp
      | cons d cs =>
          have pair := (List.isChain_cons_cons.mp h).1
          simpa using pair

/-! ## Lines -/

/-- Lines with their line feeds, one behind the other. -/
def unlines (ls : List (List Char)) : List Char :=
  ls.flatMap (· ++ ['\n'])

theorem unlines_cons (l : List Char) (ls : List (List Char)) :
    unlines (l :: ls) = l ++ '\n' :: unlines ls := by
  simp [unlines]

/-- The lines of a text are found again, with nothing behind the last line feed. -/
theorem split_unlines {ls : List (List Char)} (h : ∀ l ∈ ls, '\n' ∉ l) :
    Text.split ['\n'] (unlines ls) = ls ++ [[]] := by
  induction ls with
  | nil => rfl
  | cons l ls ih =>
      rw [List.forall_mem_cons] at h
      rw [unlines_cons, Text.split_append_cons h.1, ih h.2, List.cons_append]

theorem join_append_feed {ls : List (List Char)} (h : ls ≠ []) :
    Text.join ['\n'] ls ++ ['\n'] = unlines ls := by
  induction ls with
  | nil => exact absurd rfl h
  | cons l ls ih =>
      cases ls with
      | nil => simp [Text.join, unlines]
      | cons next ls =>
          rw [Text.join_cons_of_ne_nil _ _ (List.cons_ne_nil _ _), unlines_cons,
            ← ih (List.cons_ne_nil _ _)]
          simp

theorem unlines_getLast? {ls : List (List Char)} (h : ls ≠ []) :
    (unlines ls).getLast? = some '\n' := by
  rw [← join_append_feed h, List.getLast?_append]
  rfl

/-- A comment would stand in one of the lines, since it goes over no line feed. -/
theorem noComment_unlines_iff {ls : List (List Char)} :
    NoComment (unlines ls) ↔ ∀ l ∈ ls, NoComment l := by
  induction ls with
  | nil => exact ⟨fun _ _ h => absurd h List.not_mem_nil, fun _ => .nil⟩
  | cons l ls ih =>
      rw [unlines_cons, List.forall_mem_cons, ← ih, NoComment, List.isChain_append,
        List.isChain_cons]
      constructor
      · rintro ⟨first, ⟨-, others⟩, -⟩
        exact ⟨first, others⟩
      · rintro ⟨first, others⟩
        exact ⟨first, ⟨by simp, others⟩, by simp⟩

/-- A text that ends with a line feed is made of lines. -/
theorem exists_unlines {cs : List Char} (h : cs.getLast? = some '\n') :
    ∃ ls, ls ≠ [] ∧ (∀ l ∈ ls, '\n' ∉ l) ∧ cs = unlines ls := by
  obtain ⟨body, rfl⟩ := List.getLast?_eq_some_iff.mp h
  have pieces := Text.split_ne_nil ['\n'] body
  refine ⟨Text.split ['\n'] body, pieces, fun l hl => Text.not_mem_of_mem_split hl, ?_⟩
  rw [← join_append_feed pieces, Text.join_split (List.cons_ne_nil _ _)]

/-! ## Normal form -/

/-- A text in normal form: line ends are line feeds, there are no comments, and the last line is
ended. -/
structure IsNormal (cs : List Char) : Prop where
  noReturn : '\r' ∉ cs
  noComment : NoComment cs
  ended : cs.getLast? = some '\n'

/-- Lines without returns and comments make up a text in normal form. -/
theorem isNormal_unlines {ls : List (List Char)} (nonempty : ls ≠ [])
    (h : ∀ l ∈ ls, '\r' ∉ l ∧ NoComment l) : IsNormal (unlines ls) := by
  refine ⟨fun found => ?_, noComment_unlines_iff.mpr fun l hl => (h l hl).2, unlines_getLast? nonempty⟩
  obtain ⟨l, hl, hr⟩ := List.mem_flatMap.mp found
  rcases List.mem_append.mp hr with inside | feed
  · exact (h l hl).1 inside
  · exact absurd feed (by decide)

/-- The normal form is made of the lines of the text without their comments, where nothing behind the
last line feed is no line. An empty text has an empty line. -/
theorem normalize_eq_unlines (cs : List Char) :
    ∃ ls, ls ≠ [] ∧ normalize cs = unlines ls ∧
      ∀ l ∈ ls, l = [] ∨ ∃ line ∈ Text.split ['\n'] (unifyLines cs), l = dropComment line := by
  unfold normalize
  dsimp only
  generalize hkept : (if (List.map dropComment (Text.split ['\n'] (unifyLines cs))).getLast? ==
      some [] then (List.map dropComment (Text.split ['\n'] (unifyLines cs))).dropLast
      else List.map dropComment (Text.split ['\n'] (unifyLines cs))) = kept
  have lines : ∀ l ∈ kept, ∃ line ∈ Text.split ['\n'] (unifyLines cs), l = dropComment line := by
    intro l hl
    have found : l ∈ List.map dropComment (Text.split ['\n'] (unifyLines cs)) := by
      rw [← hkept] at hl
      split at hl
      · exact List.mem_of_mem_dropLast hl
      · exact hl
    obtain ⟨line, hline, rfl⟩ := List.mem_map.mp found
    exact ⟨line, hline, rfl⟩
  split
  · exact ⟨[[]], List.cons_ne_nil _ _, rfl, by simp⟩
  · next nonempty => exact ⟨kept, by simpa using nonempty, rfl, fun l hl => .inr (lines l hl)⟩

/-- **What normalizing gives is in normal form.** -/
theorem normalize_isNormal (cs : List Char) : IsNormal (normalize cs) := by
  obtain ⟨ls, nonempty, same, lines⟩ := normalize_eq_unlines cs
  rw [same]
  refine isNormal_unlines nonempty fun l hl => ?_
  rcases lines l hl with rfl | ⟨line, hline, rfl⟩
  · exact ⟨List.not_mem_nil, .nil⟩
  · refine ⟨fun found => return_not_mem_unifyLines cs ?_, dropComment_noComment line⟩
    exact Text.mem_of_mem_split hline ((dropComment_start line).subset found)

/-- **A text in normal form stays as it is.** -/
theorem normalize_of_isNormal {cs : List Char} (h : IsNormal cs) : normalize cs = cs := by
  obtain ⟨ls, nonempty, feeds, rfl⟩ := exists_unlines h.ended
  have plain := noComment_unlines_iff.mp h.noComment
  have lines : (ls ++ [[]]).map dropComment = ls ++ [[]] := by
    rw [List.map_append, List.map_congr_left fun l hl => dropComment_of_noComment (plain l hl),
      List.map_id']
    rfl
  unfold normalize
  rw [unifyLines_of_no_return h.noReturn, split_unlines feeds]
  have ended : ((ls ++ [[]]).getLast? == some []) = true := by simp
  simp only [lines, ended, if_true, List.dropLast_concat]
  rw [if_neg (by simpa using nonempty), unlines]

/-- **Line ends do not matter, and normalizing gives a normal form.** A text without returns and the
same text with its line ends written in another way have one normal form, so they are the same story or
have the same fault. The normal form of any text has no returns and no comments, ends with a line feed
and is its own normal form. -/
theorem line_ends_and_normal_form :
    (∀ cs, '\r' ∉ cs → ∀ ending ∈ lineEnds,
      normalize (withLineEnds ending cs) = normalize cs ∧
        ∀ name, parse ⟨name, String.ofList (withLineEnds ending cs)⟩ =
          parse ⟨name, String.ofList cs⟩) ∧
    ∀ cs, normalize (normalize cs) = normalize cs ∧ '\r' ∉ normalize cs ∧ NoComment (normalize cs) ∧
      (normalize cs).getLast? = some '\n' := by
  constructor
  · intro cs h ending hending
    have same : normalize (withLineEnds ending cs) = normalize cs := by
      unfold normalize
      rw [unifyLines_withLineEnds hending h, unifyLines_of_no_return h]
    refine ⟨same, fun name => ?_⟩
    unfold parse
    rw [String.toList_ofList, String.toList_ofList, same]
  · intro cs
    have normal := normalize_isNormal cs
    exact ⟨normalize_of_isNormal normal, normal.noReturn, normal.noComment, normal.ended⟩

/-- Empty lines in a row, and a comment that starts with a backquote. -/
def blankLines : List Char :=
  "% start: a\n\n\n# a\nx \x60\x60\x60y\n".toList

theorem blankLines_normal_form :
    '\r' ∉ blankLines ∧ ['\r', '\n'] ∈ lineEnds ∧
      normalize (withLineEnds ['\r', '\n'] blankLines) = "% start: a\n\n\n# a\nx \n".toList := by
  have clean : '\r' ∉ blankLines := by decide
  have crlf : ['\r', '\n'] ∈ lineEnds := by decide
  refine ⟨clean, crlf, ?_⟩
  rw [(line_ends_and_normal_form.1 blankLines clean _ crlf).1]
  decide +kernel

end Manuscript

end Fiction
