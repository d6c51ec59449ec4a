import Fiction.Path
import Fiction.Proofs.Text.Trim

/-!
# Fiction.Proofs.Path

**Paths are read as they are written.** `Path.IsProper` says which paths can be written: their segments
are not empty and have neither blanks nor dots. `Path.parse_text` reads such a path back, and
`Path.isProper_of_parse` says that reading gives no others.
-/

namespace Fiction

/-! ## Texts without blanks and delimiters -/

namespace Text

/-- All blanks. -/
def blanks : List Char :=
  ([9, 10, 11, 12, 13, 0x20, 0x85, 0xA0, 0x1680] ++ List.range' 0x2000 11 ++
    [0x2028, 0x2029, 0x202F, 0x205F, 0x3000]).map Char.ofNat

theorem mem_blanks {c : Char} (h : isBlank c = true) : c ∈ blanks := by
  have codes : c.toNat ∈ blanks.map Char.toNat := by
    have listed : blanks.map Char.toNat = [9, 10, 11, 12, 13, 0x20, 0x85, 0xA0, 0x1680] ++
        List.range' 0x2000 11 ++ [0x2028, 0x2029, 0x202F, 0x205F, 0x3000] := by decide
    simp only [isBlank, Bool.or_eq_true, Bool.and_eq_true, decide_eq_true_eq, beq_iff_eq] at h
    simp only [listed, List.mem_append, List.mem_cons, List.not_mem_nil, or_false,
      List.mem_range'_1]
    omega
  obtain ⟨blank, hblank, same⟩ := List.mem_map.mp codes
  rwa [← Char.toNat_inj.mp same]

/-- A class of characters that has no blank. -/
theorem isBlank_of_any {P : Char → Bool} (h : blanks.any P = false) {c : Char} (hc : P c = true) :
    isBlank c = false := by
  rw [List.any_eq_false] at h
  rw [← Bool.not_eq_true]
  exact fun blank => h c (mem_blanks blank) hc

variable {d : Char} {piece rest : List Char}

/-- A piece without delimiter goes to the front of the first piece behind it. -/
theorem split_append_cons (h : d ∉ piece) :
    split [d] (piece ++ d :: rest) = piece :: split [d] rest := by
  unfold split
  induction piece with
  | nil => simp [splitFrom]
  | cons c piece ih =>
      rw [List.mem_cons, not_or] at h
      rw [List.cons_append, splitFrom, if_neg (by simpa using h.1), ih h.2]
      rfl

theorem split_of_not_mem (h : d ∉ piece) : split [d] piece = [piece] := by
  unfold split
  induction piece with
  | nil => rfl
  | cons c piece ih =>
      rw [List.mem_cons, not_or] at h
      rw [splitFrom, if_neg (by simpa using h.1), ih h.2]
      rfl

/-- Splitting undoes joining. -/
theorem split_intercalate {pieces : List (List Char)} (some : pieces ≠ [])
    (h : ∀ piece ∈ pieces, d ∉ piece) : split [d] (List.intercalate [d] pieces) = pieces := by
  induction pieces with
  | nil => exact absurd rfl some
  | cons piece pieces ih =>
      rw [List.forall_mem_cons] at h
      cases pieces with
      | nil =>
          rw [List.intercalate_singleton]
          exact split_of_not_mem h.1
      | cons next pieces =>
          rw [List.intercalate_cons_cons, List.append_assoc, List.singleton_append,
            split_append_cons h.1, ih (List.cons_ne_nil _ _) h.2]

/-- What holds of the delimiter and all pieces holds of the text they make up. -/
theorem forall_mem_intercalate {P : Char → Prop} (hd : P d) {pieces : List (List Char)}
    (h : ∀ piece ∈ pieces, ∀ c ∈ piece, P c) : ∀ c ∈ List.intercalate [d] pieces, P c := by
  induction pieces with
  | nil => exact List.forall_mem_nil _
  | cons piece pieces ih =>
      rw [List.forall_mem_cons] at h
      cases pieces with
      | nil =>
          rw [List.intercalate_singleton]
          exact h.1
      | cons next pieces =>
          rw [List.intercalate_cons_cons, List.forall_mem_append, List.forall_mem_append,
            List.forall_mem_singleton]
          exact ⟨⟨h.1, hd⟩, ih h.2⟩

/-- No piece has a delimiter. -/
theorem not_mem_of_mem_split {cs : List Char} (h : piece ∈ split [d] cs) : d ∉ piece := by
  unfold split at h
  induction cs generalizing piece with
  | nil =>
      obtain rfl := List.mem_singleton.mp h
      exact List.not_mem_nil
  | cons c cs ih =>
      rw [splitFrom] at h
      split at h
      · rcases List.mem_cons.mp h with rfl | later
        · exact List.not_mem_nil
        · exact ih later
      · next hc =>
          -- the character goes to the front of the first piece, if there is one
          have other : d ≠ c := by simpa using hc
          cases pieces : splitFrom [d] 0 cs with
          | nil =>
              rw [pieces] at h
              obtain rfl := List.mem_singleton.mp h
              exact fun hd => other (List.mem_singleton.mp hd)
          | cons first later =>
              rw [pieces] at h ih
              rcases List.mem_cons.mp h with rfl | hlater
              · rw [List.mem_cons, not_or]
                exact ⟨other, ih List.mem_cons_self⟩
              · exact ih (List.mem_cons_of_mem _ hlater)

end Text

namespace Path

/-- The segments are not empty and have neither blanks nor dots. -/
def IsProper (p : Path) : Prop :=
  ∀ segment ∈ p.segments, isSegment segment.toList = true ∧ '.' ∉ segment.toList

instance (p : Path) : Decidable p.IsProper :=
  inferInstanceAs (Decidable (∀ segment ∈ p.segments,
    isSegment segment.toList = true ∧ '.' ∉ segment.toList))

variable {p : Path}

theorem toList_text (p : Path) :
    p.text.toList = List.intercalate ['.'] (p.segments.map String.toList) := by
  rw [text, String.toList_intercalate]
  rfl

theorem isBlank_of_mem_segment {cs : List Char} (h : isSegment cs = true) :
    ∀ c ∈ cs, Text.isBlank c = false := by
  intro c hc
  simp only [isSegment, Bool.and_eq_true, Bool.not_eq_true', List.any_eq_false] at h
  simpa using h.2 c hc

/-- What holds of the dot and all characters of the segments holds of the text of a path. -/
theorem forall_mem_text {P : Char → Prop} (hdot : P '.')
    (h : ∀ segment ∈ p.segments, ∀ c ∈ segment.toList, P c) : ∀ c ∈ p.text.toList, P c := by
  rw [toList_text]
  refine Text.forall_mem_intercalate hdot fun piece hpiece => ?_
  obtain ⟨segment, hsegment, rfl⟩ := List.mem_map.mp hpiece
  exact h segment hsegment

/-- The text of a proper path has no blanks. -/
theorem IsProper.isBlank_of_mem_text (h : p.IsProper) :
    ∀ c ∈ p.text.toList, Text.isBlank c = false :=
  forall_mem_text (by decide) fun segment hsegment =>
    isBlank_of_mem_segment (h segment hsegment).1

/-- The text of a path starts with its first segment. -/
theorem exists_toList_text_eq (p : Path) : ∃ rest, p.text.toList = p.head.toList ++ rest := by
  rw [toList_text, segments, List.map_cons]
  cases p.tail.map String.toList with
  | nil => exact ⟨[], by rw [List.intercalate_singleton, List.append_nil]⟩
  | cons next rest =>
      rw [List.intercalate_cons_cons, List.append_assoc]
      exact ⟨_, rfl⟩

theorem IsProper.toList_text_ne_nil (h : p.IsProper) : p.text.toList ≠ [] := by
  obtain ⟨first, -⟩ := h p.head List.mem_cons_self
  obtain ⟨rest, hrest⟩ := p.exists_toList_text_eq
  intro empty
  rw [hrest, List.append_eq_nil_iff] at empty
  rw [empty.1] at first
  cases first

theorem IsProper.framed (h : p.IsProper) : Text.Framed p.text.toList :=
  Text.framed_of_no_blanks h.toList_text_ne_nil h.isBlank_of_mem_text

/-- **A proper path is read as it is written.** -/
theorem parse_text (h : p.IsProper) : parse p.text = .ok p := by
  have pieces : Text.split ['.'] p.text.toList = p.segments.map String.toList := by
    rw [toList_text]
    refine Text.split_intercalate (by simp [segments]) fun piece hpiece => ?_
    obtain ⟨segment, hsegment, rfl⟩ := List.mem_map.mp hpiece
    exact (h segment hsegment).2
  have trimmed : (p.segments.map String.toList).map Text.trim = p.segments.map String.toList := by
    rw [List.map_map]
    refine List.map_congr_left fun segment hsegment => ?_
    exact Text.trim_of_no_blanks (isBlank_of_mem_segment (h segment hsegment).1)
  have each : (p.segments.map String.toList).all isSegment = true := by
    rw [List.all_map, List.all_eq_true]
    exact fun segment hsegment => (h segment hsegment).1
  unfold parse
  rw [Text.trim_of_no_blanks h.isBlank_of_mem_text]
  dsimp only
  rw [pieces, trimmed, each]
  simp [segments, h.toList_text_ne_nil]

/-- Only proper paths are read. -/
theorem isProper_of_parse {s : String} (h : parse s = .ok p) : p.IsProper := by
  unfold parse at h
  dsimp only at h
  split at h
  · next first rest hpieces =>
      split at h
      · next valid =>
          cases h
          simp only [Bool.and_eq_true, List.all_eq_true] at valid
          have each : ∀ piece ∈ first :: rest, isSegment piece = true ∧ '.' ∉ piece := by
            intro piece hpiece
            rw [← hpieces] at hpiece
            refine ⟨valid.2 piece hpiece, ?_⟩
            -- pieces are trimmed after the text was split, and trimming adds no dot
            obtain ⟨before, hbefore, rfl⟩ := List.mem_map.mp hpiece
            exact fun dot => Text.not_mem_of_mem_split hbefore (Text.mem_of_mem_trim dot)
          intro segment hsegment
          obtain ⟨piece, hpiece, rfl⟩ : ∃ piece ∈ first :: rest, String.ofList piece = segment :=
            List.mem_map.mp hsegment
          rw [String.toList_ofList]
          exact each piece hpiece
      · cases h
  · cases h

end Path

end Fiction
