import Fiction.Proofs.Story.Draft
import Fiction.Story.Load

/-!
# Fiction.Proofs.Story.Form

**No manuscript is taken for data.** The form of a text is told by the first character that is not blank.
A manuscript is read without its comments and with its line ends in one form, and there only spaces and
tabs count as blank. The first visible character survives all of this.

* `Text.visible?` is that character. `visible?_replaceAll` is the step over line ends, and
  `findSome?_visible?_dropComment` the one over comments, which takes away nothing but backquotes.
* `visible?_normalize` puts them together, and `visible?_of_read` says with which characters a manuscript
  starts that can be read.
-/

namespace Fiction

namespace Text

/-- The first character of a text that is not blank. -/
def visible? (cs : List Char) : Option Char :=
  cs.find? fun c => !isBlank c

theorem head?_trimStart (cs : List Char) : (trimStart cs).head? = visible? cs := by
  simp [visible?, trimStart, List.find?_eq_head?_dropWhile_not]

theorem visible?_append (cs ds : List Char) : visible? (cs ++ ds) = (visible? cs).or (visible? ds) :=
  List.find?_append

theorem visible?_eq_none_iff {cs : List Char} : visible? cs = none ↔ ∀ c ∈ cs, isBlank c = true := by
  simp [visible?]

/-- What is blank does not show, and neither does what is put in its place. -/
theorem visible?_replaceAll {needle replacement : List Char} (hneedle : ∀ c ∈ needle, isBlank c = true)
    (hreplacement : ∀ c ∈ replacement, isBlank c = true) (nonempty : needle ≠ []) (cs : List Char) :
    visible? (replaceAll needle replacement cs) = visible? cs := by
  induction cs using search_induction nonempty with
  | nil => rw [replaceAll_nil nonempty]
  | found rest ih =>
      have replaced : replaceAll needle replacement (needle ++ rest) =
          replacement ++ replaceAll needle replacement rest := by
        simp only [replaceAll, List.isEmpty_iff, if_neg nonempty]
        rw [split_found nonempty, join_cons_of_ne_nil _ _ (split_ne_nil _ _), List.nil_append]
      rw [replaced, visible?_append, visible?_append, visible?_eq_none_iff.mpr hneedle,
        visible?_eq_none_iff.mpr hreplacement, ih]
  | passed c cs here ih =>
      rw [replaceAll_cons nonempty, if_neg (mt List.isPrefixOf_iff_prefix.mp here)]
      unfold visible? at ih ⊢
      rw [List.find?_cons, List.find?_cons, ih]

/-- The first visible character of joined lines is that of the first line with one. -/
theorem visible?_join (ls : List (List Char)) : visible? (join ['\n'] ls) = ls.findSome? visible? := by
  induction ls with
  | nil => rfl
  | cons l ls ih =>
      cases ls with
      | nil => simp [join]
      | cons next ls =>
          have feed (cs : List Char) : visible? (['\n'] ++ cs) = visible? cs := rfl
          rw [join_cons_of_ne_nil _ _ (List.cons_ne_nil _ _), visible?_append, feed, ih,
            List.findSome?_cons (a := l)]
          cases visible? l with
          | none => rfl
          | some c => rfl

end Text

namespace Manuscript

open Text (visible? visible?_append visible?_eq_none_iff)

/-! ## Normal form -/

theorem visible?_unifyLines (cs : List Char) : visible? (unifyLines cs) = visible? cs := by
  have feed : ∀ c ∈ ['\n'], Text.isBlank c = true := by simp; decide
  have mixed : ∀ needle ∈ [['\n', '\r'], ['\r', '\n'], ['\r']],
      (∀ c ∈ needle, Text.isBlank c = true) ∧ needle ≠ [] := by simp; decide
  unfold unifyLines
  dsimp only
  rw [Text.visible?_replaceAll (mixed _ (by simp)).1 feed (mixed _ (by simp)).2,
    Text.visible?_replaceAll (mixed _ (by simp)).1 feed (mixed _ (by simp)).2,
    Text.visible?_replaceAll (mixed _ (by simp)).1 feed (mixed _ (by simp)).2]

/-- A line without its comment starts with the same visible character, unless that is where the comment
starts. -/
theorem visible?_dropComment {l : List Char} {d : Char} (h : visible? l = some d) (hd : d ≠ '\x60') :
    visible? (dropComment l) = some d := by
  induction l with
  | nil => cases h
  | cons c l ih =>
      unfold Text.visible? at h ih ⊢
      rw [List.find?_cons] at h
      split at h
      · next visible =>
          cases h
          rw [dropComment, if_neg (by simp [hd])]
          exact List.find?_cons_of_pos visible
      · next blank =>
          have other : c ≠ '\x60' := by
            rintro rfl
            cases blank
          rw [dropComment, if_neg (by simp [other]), List.find?_cons_of_neg (by simp [blank]), ih h]

theorem findSome?_visible?_dropComment {ls : List (List Char)} {d : Char}
    (h : ls.findSome? visible? = some d) (hd : d ≠ '\x60') :
    (ls.map dropComment).findSome? visible? = some d := by
  induction ls with
  | nil => cases h
  | cons l ls ih =>
      rw [List.findSome?_cons] at h
      rw [List.map_cons, List.findSome?_cons]
      cases found : visible? l with
      | none =>
          -- a blank line has no comment
          have blank : visible? (dropComment l) = none :=
            visible?_eq_none_iff.mpr fun c hc =>
              visible?_eq_none_iff.mp found c ((dropComment_start l).subset hc)
          rw [found] at h
          rw [blank]
          exact ih h
      | some c =>
          rw [found] at h
          cases h
          rw [visible?_dropComment found hd]

theorem visible?_unlines (ls : List (List Char)) : visible? (unlines ls) = ls.findSome? visible? := by
  induction ls with
  | nil => rfl
  | cons l ls ih =>
      have feed : visible? ('\n' :: unlines ls) = visible? (unlines ls) := rfl
      rw [unlines_cons, visible?_append, feed, ih, List.findSome?_cons]
      cases visible? l with
      | none => rfl
      | some c => rfl

/-- **The first visible character of a text is that of its normal form**, unless a comment starts with
it. -/
theorem visible?_normalize {cs : List Char} {d : Char} (h : visible? cs = some d) (hd : d ≠ '\x60') :
    visible? (normalize cs) = some d := by
  rw [← visible?_unifyLines, ← Text.join_split (List.cons_ne_nil '\n' []) (unifyLines cs),
    Text.visible?_join] at h
  have shown := findSome?_visible?_dropComment h hd
  unfold normalize
  dsimp only
  generalize (Text.split ['\n'] (unifyLines cs)).map dropComment = ls at shown ⊢
  -- what is not counted as a line is empty
  generalize counted : (if ls.getLast? == some [] then ls.dropLast else ls) = kept
  have some_kept : kept.findSome? visible? = some d := by
    rw [← counted]
    split
    · next last =>
        obtain ⟨front, rfl⟩ := List.getLast?_eq_some_iff.mp (by simpa using last)
        rw [List.findSome?_append] at shown
        rw [List.dropLast_concat]
        simpa [visible?] using shown
    · exact shown
  split
  · next empty =>
      rw [List.isEmpty_iff.mp empty] at some_kept
      cases some_kept
  · exact (visible?_unlines kept).trans some_kept

/-! ## What can be read -/

theorem isBlank_of_isInlineSpace {c : Char} (h : isInlineSpace c = true) : Text.isBlank c = true := by
  unfold isInlineSpace at h
  simp only [Bool.or_eq_true, decide_eq_true_eq] at h
  rcases h with rfl | rfl
  · decide
  · decide

/-- A line of the header shows a percent sign first, if anything. -/
theorem visible?_headerLine {line : Fragment} (h : isHeaderLine line = true) :
    visible? line.chars = none ∨ visible? line.chars = some '%' := by
  unfold isHeaderLine at h
  rcases Bool.or_eq_true_iff.mp h with percent | spaces
  · obtain ⟨rest, hrest⟩ := List.head?_eq_some_iff.mp (by simpa using percent)
    rw [hrest]
    exact .inr rfl
  · exact .inl (visible?_eq_none_iff.mpr fun c hc =>
      isBlank_of_isInlineSpace (List.all_eq_true.mp spaces c hc))

/-- A line that starts a node shows its sign first. -/
theorem visible?_of_nodeName? {cs name : List Char} (h : nodeName? cs = some name) :
    visible? cs = some '#' := by
  unfold nodeName? at h
  split at h
  · rfl
  · cases h

/-- Where no line comes before the first node, the first line starts it. -/
theorem nodeName?_of_groupNodes {line : Fragment} {rest : List Fragment}
    (h : (groupNodes (line :: rest)).1 = []) : ∃ name, nodeName? line.chars = some name := by
  rw [groupNodes] at h
  generalize groupNodes rest = grouped at h
  obtain ⟨before, entries⟩ := grouped
  dsimp only at h
  split at h
  · next name found => exact ⟨name, found⟩
  · cases h

theorem groupNodes_of_read {cs : List Char} {story : Story} (h : read cs = .ok story) :
    (groupNodes ((lines cs).dropWhile isHeaderLine)).1 = [] := by
  unfold read at h
  dsimp only at h
  split at h
  · cases h
  · next none => exact none

/-- The lines that a manuscript starts with. -/
theorem findSome?_visible?_lines {ls : List Fragment} {d : Char}
    (nodes : (groupNodes (ls.dropWhile isHeaderLine)).1 = [])
    (h : (ls.map Fragment.chars).findSome? visible? = some d) : d = '%' ∨ d = '#' := by
  induction ls with
  | nil => cases h
  | cons line ls ih =>
      rw [List.map_cons, List.findSome?_cons] at h
      by_cases header : isHeaderLine line = true
      · rw [List.dropWhile_cons_of_pos header] at nodes
        rcases visible?_headerLine header with none | percent
        · rw [none] at h
          exact ih nodes h
        · rw [percent] at h
          cases h
          exact .inl rfl
      · rw [List.dropWhile_cons_of_neg header] at nodes
        obtain ⟨name, found⟩ := nodeName?_of_groupNodes nodes
        rw [visible?_of_nodeName? found] at h
        cases h
        exact .inr rfl

/-- **A manuscript that can be read starts with its header or with a node.** -/
theorem visible?_of_read {cs : List Char} {story : Story} {d : Char} (normal : IsNormal cs)
    (h : read cs = .ok story) (hd : visible? cs = some d) : d = '%' ∨ d = '#' := by
  obtain ⟨ls, -, feeds, rfl⟩ := exists_unlines normal.ended
  refine findSome?_visible?_lines (groupNodes_of_read h) ?_
  rw [map_chars_lines feeds, ← visible?_unlines, hd]

theorem parse_eq_ok_iff {source : Source} {story : Story} :
    parse source = .ok story ↔ read (normalize source.text.toList) = .ok story := by
  unfold parse
  dsimp only
  cases read (normalize source.text.toList) with
  | ok found => simp
  | error flaw => simp

end Manuscript

namespace Story

open Text (visible?)

/-- Data shows an opening brace first. -/
theorem visible?_of_formOf {s : String} (h : formOf s = .data) : visible? s.toList = some '{' := by
  unfold formOf at h
  rw [← Text.head?_trimStart]
  split at h
  · next start => rw [start, List.head?_cons]
  · cases h

/-- **No manuscript is taken for data.** A text that can be read as a manuscript, under whatever name, is
recognised as one, and read without being told its form it is the same story. What it shows first is its
header, a node or a comment, whatever blanks and line ends stand in front of it. -/
theorem manuscript_recognised {name text : String} {story : Story}
    (h : Manuscript.parse ⟨name, text⟩ = .ok story) :
    formOf text = .manuscript ∧ (∀ other, Story.parse none ⟨other, text⟩ = .ok story) ∧
      ∀ d, visible? text.toList = some d → d ∈ ['%', '#', '\x60'] := by
  have readable := Manuscript.parse_eq_ok_iff.mp h
  have shows (d : Char) (hd : visible? text.toList = some d) : d ∈ ['%', '#', '\x60'] := by
    by_cases comment : d = '\x60'
    · simp [comment]
    · have start := Manuscript.visible?_of_read (Manuscript.normalize_isNormal _) readable
        (Manuscript.visible?_normalize hd comment)
      simpa [comment] using start
  have form : formOf text = .manuscript := by
    cases hform : formOf text with
    | manuscript => rfl
    | data => exact absurd (shows _ (visible?_of_formOf hform)) (by decide)
  refine ⟨form, fun other => ?_, shows⟩
  unfold Story.parse
  rw [Option.getD_none, form]
  exact Manuscript.parse_eq_ok_iff.mpr readable

/-- A manuscript behind blanks of several kinds and a comment that looks like data, with a node that does
so too. -/
def disguised : String :=
  " \t\r\n\r\x60\x60 \x7b\"start\": \"a\"\x7d\n\r% start: a\r\n# a\n\x7b \"nodes\"\r"

theorem disguised_is_manuscript : ∃ story, Manuscript.parse ⟨"tale", disguised⟩ = .ok story ∧
    formOf disguised = .manuscript ∧ Story.parse none ⟨"other", disguised⟩ = .ok story ∧
      '\x60' ∈ ['%', '#', '\x60'] := by
  have readable : (Manuscript.parse ⟨"tale", disguised⟩).toOption.isSome = true := by decide +kernel
  have start : visible? disguised.toList = some '\x60' := by decide +kernel
  cases parsed : Manuscript.parse ⟨"tale", disguised⟩ with
  | error fault =>
      rw [parsed] at readable
      cases readable
  | ok story =>
      obtain ⟨form, same, shows⟩ := manuscript_recognised parsed
      exact ⟨story, rfl, form, same "other", shows _ start⟩

end Story

end Fiction
