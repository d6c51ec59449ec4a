import Fiction.Proofs.Expansion.Positions
import Fiction.Story.Manuscript

/-!
# Fiction.Proofs.Story.Manuscript

**What is wrong with a manuscript is reported in its normal form.** A text in normal form is cut into
lines, which know where they stand. Ranges in faults are put together from them.

* `Fragment.LineOf` is a line that stands in a text together with its line feed, and `lines_sound` says
  that the lines of a text are such lines, in the order of the text.
* `groupNodes_sound` is the step over the lines: what stands before the first node is lines of the text,
  and each node has a range in it.
* `read_sound` puts the faults of the header, of the nodes and of the text before them together, and
  `parse_inBounds` is the result.
-/

namespace Fiction

/-- Every character has a byte. -/
theorem Text.length_le_byteLength (cs : List Char) : cs.length ≤ byteLength cs := by
  induction cs with
  | nil => exact Nat.le_refl _
  | cons c cs ih =>
      have := c.utf8Size_pos
      rw [List.length_cons, byteLength_cons]
      omega

/-! ## Lines -/

namespace Fragment

/-- A line stands in a text, and behind it its line feed does. -/
def LineOf (line f : Fragment) : Prop :=
  PartOf ⟨line.offset, line.chars ++ ['\n']⟩ f

theorem LineOf.stop_lt {line f : Fragment} (h : line.LineOf f) : line.stop + 1 ≤ f.stop := by
  have feed : '\n'.utf8Size = 1 := by decide
  have upper := h.stop_le
  simp only [stop, Text.byteLength_append, Text.byteLength_cons, Text.byteLength_nil, feed] at upper ⊢
  omega

theorem LineOf.offset_le {line f : Fragment} (h : line.LineOf f) : f.offset ≤ line.offset := by
  have part : PartOf ⟨line.offset, line.chars ++ ['\n']⟩ f := h
  exact part.offset_le

/-- From the start of one line to the end of a later one. -/
theorem LineOf.span_within {line last f : Fragment} (h : line.LineOf f) (hlast : last.LineOf f)
    (hle : line.offset ≤ last.offset) : Span.Within ⟨line.offset, last.stop + 1⟩ f :=
  ⟨h.offset_le, (hle.trans (Nat.le_add_right _ _)).trans (Nat.le_succ _), hlast.stop_lt⟩

/-- All but the last of the pieces that are placed are followed by the delimiter. -/
theorem mem_dropLast_place {delimiter : Char} {offset : Nat} {pieces : List (List Char)} {f : Fragment}
    (h : f ∈ (place delimiter offset pieces).dropLast) :
    PartOf ⟨f.offset, f.chars ++ [delimiter]⟩ ⟨offset, Text.join [delimiter] pieces⟩ := by
  induction pieces generalizing offset with
  | nil => cases h
  | cons piece rest ih =>
      cases rest with
      | nil => cases h
      | cons next rest =>
          -- the first piece is followed by the delimiter that joins it to the next
          rw [Text.join_cons_of_ne_nil _ _ (List.cons_ne_nil _ _)]
          rw [place, place, List.dropLast_cons_cons, ← place] at h
          rcases List.mem_cons.mp h with rfl | h
          · exact ⟨[], Text.join [delimiter] (next :: rest), by simp, rfl⟩
          · refine (ih h).trans ⟨piece ++ [delimiter], [], by simp, ?_⟩
            simp [Nat.add_assoc]

theorem le_offset_of_mem_place {delimiter : Char} {offset : Nat} {pieces : List (List Char)}
    {f : Fragment} (h : f ∈ place delimiter offset pieces) : offset ≤ f.offset :=
  (mem_place h).offset_le

/-- Pieces are placed in their order. -/
theorem place_pairwise (delimiter : Char) (offset : Nat) (pieces : List (List Char)) :
    (place delimiter offset pieces).Pairwise fun f g => f.offset ≤ g.offset := by
  induction pieces generalizing offset with
  | nil => exact List.Pairwise.nil
  | cons piece rest ih =>
      rw [place]
      refine List.Pairwise.cons (fun g hg => ?_) (ih _)
      have := le_offset_of_mem_place hg
      dsimp only
      omega

end Fragment

namespace Manuscript

/-- Lines of a text, in its order. -/
structure Lines (f : Fragment) (lines : List Fragment) : Prop where
  line : ∀ line ∈ lines, line.LineOf f
  order : lines.Pairwise fun a b => a.offset ≤ b.offset

theorem Lines.sublist {f : Fragment} {lines rest : List Fragment} (h : Lines f lines)
    (hs : rest.Sublist lines) : Lines f rest :=
  ⟨fun line hl => h.line line (hs.subset hl), h.order.sublist hs⟩

/-- The lines of a text stand in it. -/
theorem lines_sound (cs : List Char) : Lines ⟨0, cs⟩ (lines cs) := by
  constructor
  · intro line hline
    have placed := Fragment.mem_dropLast_place hline
    rwa [Text.join_split (List.cons_ne_nil _ _)] at placed
  · exact (Fragment.place_pairwise '\n' 0 _).sublist (List.dropLast_sublist _)

variable {f : Fragment} {ls : List Fragment}

/-! ## The header -/

theorem readHeader_sound (h : Lines f ls) (fields : Mapping String) (current : Option String) :
    Sound (·.Within f) (fun _ => True) (readHeader fields current ls) := by
  induction ls generalizing fields current with
  | nil => trivial
  | cons line rest ih =>
      have hrest := h.sublist (List.sublist_cons_self line rest)
      have hline := h.line line List.mem_cons_self
      rw [readHeader]
      split
      · split
        · exact ih hrest _ _
        · split
          · exact hline.span_within hline (Nat.le_refl _)
          · exact ih hrest _ _
      · exact ih hrest _ _

/-- The range of the header is one of the text, also where there is no header. -/
theorem headerSpan_within {cs : List Char} (h : Lines ⟨0, cs⟩ ls) :
    Span.Within ⟨0, (ls.getLast?.map fun line => line.stop + 1).getD 0⟩ ⟨0, cs⟩ := by
  refine ⟨Nat.le_refl _, Nat.zero_le _, ?_⟩
  cases hlast : ls.getLast? with
  | none => exact Nat.zero_le _
  | some last => exact (h.line last (List.mem_of_getLast? hlast)).stop_lt

/-! ## Nodes -/

/-- What stands before the first node are the lines that the text starts with. -/
theorem groupNodes_start (ls : List Fragment) : (groupNodes ls).1 <+: ls := by
  induction ls with
  | nil => exact List.prefix_rfl
  | cons line rest ih =>
      rw [groupNodes]
      generalize groupNodes rest = grouped at ih ⊢
      obtain ⟨before, entries⟩ := grouped
      dsimp only
      split
      · exact List.nil_prefix
      · exact (List.prefix_cons_inj line).mpr ih

/-- Each node has a range in the text: from its name to the last line before the next one. -/
theorem groupNodes_sound (h : Lines f ls) :
    ∀ entry ∈ (groupNodes ls).2, entry.span.Within f := by
  induction ls with
  | nil => exact fun _ h => nomatch h
  | cons line rest ih =>
      have others := ih (h.sublist (List.sublist_cons_self line rest))
      have hline := h.line line List.mem_cons_self
      have before := groupNodes_start rest
      rw [groupNodes]
      generalize groupNodes rest = grouped at others before ⊢
      obtain ⟨front, entries⟩ := grouped
      dsimp only at others before ⊢
      split
      · rw [List.forall_mem_cons]
        refine ⟨?_, others⟩
        cases hlast : front.getLast? with
        | none => exact hline.span_within hline (Nat.le_refl _)
        | some last =>
            -- the last line of the node is one of the lines behind its name
            have later : last ∈ rest := before.subset (List.mem_of_getLast? hlast)
            exact hline.span_within (h.line last (List.mem_cons_of_mem _ later))
              (List.rel_of_pairwise_cons h.order later)
      · exact others

/-- A line that belongs nowhere goes wrong somewhere in it. -/
theorem strayPosition_within {line : Fragment} (h : line.LineOf f) :
    (Span.at (strayPosition line)).Within f := by
  have hash : '#'.utf8Size = 1 := by decide
  have inside : line.offset ≤ strayPosition line ∧ strayPosition line ≤ line.stop := by
    unfold strayPosition Fragment.stop
    split
    · next cs text =>
        -- the position counts characters, which are no more than the bytes of the line
        have bytes := Text.length_le_byteLength cs
        have spaces := (List.takeWhile_prefix (l := cs) isInlineSpace).length_le
        rw [text, Text.byteLength_cons, hash]
        split
        · split
          · omega
          · omega
        · omega
    · omega
  have lower := h.offset_le
  have upper := h.stop_lt
  exact ⟨lower.trans inside.1, Nat.le_refl _, inside.2.trans ((Nat.le_succ _).trans upper)⟩

theorem addNodes_sound {entries : List Entry} (h : ∀ entry ∈ entries, entry.span.Within f)
    (story : Story) : Sound (·.Within f) (fun _ => True) (addNodes story entries) := by
  induction entries generalizing story with
  | nil => trivial
  | cons entry rest ih =>
      rw [List.forall_mem_cons] at h
      rw [addNodes]
      split
      · exact ih h.2 _
      · exact h.1

/-! ## Manuscripts -/

/-- What cannot be read is reported in the text. -/
theorem read_sound (cs : List Char) : Sound (·.Within ⟨0, cs⟩) (fun _ => True) (read cs) := by
  have all := lines_sound cs
  have header := all.sublist (List.takeWhile_sublist isHeaderLine)
  have body := all.sublist (List.dropWhile_sublist isHeaderLine)
  unfold read
  dsimp only
  split
  · next line _ stray =>
      have first : line ∈ (groupNodes ((lines cs).dropWhile isHeaderLine)).1 := by simp [stray]
      exact strayPosition_within (body.line line ((groupNodes_start _).subset first))
  · refine (readHeader_sound header _ _).bind fun fields _ => ?_
    -- what is wrong with the fields or with the whole story is reported at the header
    have range := headerSpan_within header
    refine Sound.bind (P := fun _ => True) ?_ fun story _ => ?_
    · split
      · trivial
      · exact range
    · refine (addNodes_sound (groupNodes_sound body) story).bind fun story _ => ?_
      refine Sound.bind (P := fun _ => True) ?_ fun _ _ => trivial
      split
      · trivial
      · exact range

/-- **Faults of a manuscript point into its normal form.** -/
theorem parse_inBounds {source : Source} {fault : Fault} (h : parse source = .error fault) :
    fault.source = ⟨source.name, String.ofList (normalize source.text.toList)⟩ ∧ fault.InBounds := by
  unfold parse at h
  generalize normalize source.text.toList = normal at h ⊢
  have sound := read_sound normal
  dsimp only at h
  split at h
  · cases h
  · next flaw hread =>
      cases h
      refine ⟨rfl, Fault.inBounds_of_within ?_⟩
      have text : Fragment.ofString (String.ofList normal) = ⟨0, normal⟩ := by
        rw [Fragment.ofString, String.toList_ofList]
      exact text ▸ sound.of_error hread

end Manuscript

end Fiction
