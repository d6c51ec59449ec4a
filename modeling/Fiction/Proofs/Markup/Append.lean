import Fiction.Markup.Escape
import Fiction.Proofs.Markup.Lossless

/-!
# Fiction.Proofs.Markup.Append

**Scanning starts anew behind a line.** No call starts in one line and has its name end in another, and
no bracket or backslash at the end of a line is next to the character behind it. So if the calls and
links of some lines are closed, another text may follow them without changing what is found in either.

* `EndsLine` is a text that ends with a line, or is empty.
* `glue` puts the segments of two texts one behind the other, and makes one of the plain text that meets.
* `scanFrom_append` is the result for the scanner, and `unescape_append` the one for escapes.
-/

namespace Fiction.Markup

/-- The last character of the text, if there is one, ends a line. -/
def EndsLine (cs : List Char) : Prop :=
  ∀ c ∈ cs.getLast?, c = '\n'

/-- What a text ends with ends as the text does. -/
theorem EndsLine.of_suffix {cs ds : List Char} (h : EndsLine cs) (hs : ds <:+ cs) : EndsLine ds := by
  obtain ⟨front, rfl⟩ := hs
  intro c hc
  refine h c ?_
  rw [List.getLast?_append, hc]
  rfl

theorem EndsLine.tail {c : Char} {cs : List Char} (h : EndsLine (c :: cs)) : EndsLine cs :=
  h.of_suffix (List.suffix_cons c cs)

/-- A character at the end. -/
theorem EndsLine.eq_of_nil {c : Char} (h : EndsLine [c]) : c = '\n' :=
  h c rfl

theorem EndsLine.mem {cs : List Char} (h : EndsLine cs) (hne : cs ≠ []) : '\n' ∈ cs := by
  have last := List.getLast?_eq_some_getLast hne
  have feed := h _ last
  exact feed ▸ List.getLast_mem hne

/-! ## Escapes -/

/-- The backslashes of a text that ends a line are followed by something in it. -/
theorem unescape_append {cs : List Char} (h : EndsLine cs) (ds : List Char) :
    unescape (cs ++ ds) = unescape cs ++ unescape ds := by
  fun_induction unescape cs with
  | case1 => rfl
  | case2 => cases h.eq_of_nil
  | case3 c cs escaped ih =>
      rw [List.cons_append, List.cons_append, unescape, if_pos escaped, ih h.tail.tail]
      rfl
  | case4 c cs plain ih =>
      rw [List.cons_append, List.cons_append, unescape, if_neg plain]
      exact congrArg ('\\' :: ·) (ih h.tail)
  | case5 c cs single pair ih =>
      have plain : c ≠ '\\' := by
        intro slash
        cases cs with
        | nil => exact single slash rfl
        | cons d cs => exact pair d cs slash rfl
      rw [List.cons_append, unescape, ih h.tail]
      · rfl
      · exact fun slash => absurd slash plain
      · exact fun _ _ slash => absurd slash plain

/-! ## Segments -/

/-- Segments behind segments. Plain text that meets plain text goes with it. -/
def glue : List Segment → List Segment → List Segment
  | [], back => back
  | [.text f], .text g :: back => .text ⟨f.offset, f.chars ++ g.chars⟩ :: back
  | segment :: front, back => segment :: glue front back

theorem glue_consText (offset : Nat) (c : Char) (front back : List Segment) :
    glue (consText offset c front) back = consText offset c (glue front back) := by
  rcases front with _ | ⟨_ | _ | _, _ | ⟨_, _⟩⟩ <;> rcases back with _ | ⟨_ | _ | _, _⟩ <;> rfl

/-! ## Scanning -/

/-- A name that starts in a line ends in it. -/
theorem callName?_append_of_none {cs : List Char} (h : EndsLine cs) (hne : cs ≠ [])
    (hnone : callName? cs = none) (ds : List Char) : callName? (cs ++ ds) = none := by
  rw [Option.eq_none_iff_forall_ne_some]
  rintro ⟨name, body⟩ found
  obtain ⟨hname, text⟩ := callName?_eq_some_iff.mp found
  rw [← List.singleton_append, ← List.append_assoc] at text
  rcases List.append_eq_append_iff.mp text with ⟨more, front, -⟩ | ⟨more, front, -⟩
  · -- the name and its tilde would go beyond the end of the line
    have feed : '\n' ∈ name ++ ['~'] := front ▸ List.mem_append_left more (h.mem hne)
    rcases List.mem_append.mp feed with feed | feed
    · exact absurd (hname.isNamePart _ feed) (by decide)
    · exact absurd feed (by decide)
  · rw [List.append_assoc, List.singleton_append] at front
    have starts := callName?_eq_some_iff.mpr ⟨hname, front⟩
    rw [hnone] at starts
    cases starts

/-- Plain text in a line is plain text whatever follows the line. -/
theorem IsPlainAt.append {escaped : Bool} {c : Char} {cs : List Char} (hc : IsPlainAt escaped c cs)
    (h : EndsLine (c :: cs)) (ds : List Char) : IsPlainAt escaped c (cs ++ ds) := by
  rcases hc with hc | hc | ⟨hcall, hlink⟩
  · exact .inl hc
  · exact .inr (.inl hc)
  · cases cs with
    | nil =>
        cases h.eq_of_nil
        exact .inr (.inr ⟨by simp, by simp⟩)
    | cons d cs =>
        refine .inr (.inr ⟨fun opens => ?_, hlink⟩)
        exact callName?_append_of_none h.tail (List.cons_ne_nil _ _) (hcall opens) ds

/-- A text may go on behind what follows a link. -/
theorem takeLink_append {n : Nesting} {cs inner rest : List Char}
    (h : takeLink n cs = some (inner, rest)) (ds : List Char) :
    takeLink n (cs ++ ds) = some (inner, rest ++ ds) := by
  have text : cs ++ ds = inner ++ ']' :: ']' :: (rest ++ ds) := by
    rw [takeLink_eq h, List.append_assoc]
    rfl
  rw [text]
  exact takeLink_exchange h _

/-- **Behind a line, scanning starts anew.** If what ends with the line is scanned, what follows is
scanned as if nothing stood before it. -/
theorem scanFrom_append {offset : Nat} {escaped : Bool} {cs ds : List Char} {front back : List Segment}
    (hend : EndsLine cs) (hescaped : escaped = true → cs ≠ [])
    (hfront : scanFrom offset escaped cs = .ok front)
    (hback : scanFrom (offset + Text.byteLength cs) false ds = .ok back) :
    scanFrom offset escaped (cs ++ ds) = .ok (glue front back) := by
  -- a character of plain text in front of a text that is scanned
  have plain {offset : Nat} {escaped flag : Bool} {c : Char} {cs : List Char}
      {tail : List Segment} (hflag : (!escaped && decide (c = '\\')) = flag)
      (hc : IsPlainAt escaped c cs) (hend : EndsLine (c :: cs))
      (hback : scanFrom (offset + Text.byteLength (c :: cs)) false ds = .ok back)
      (ih : EndsLine cs → (flag = true → cs ≠ []) →
        scanFrom (offset + c.utf8Size + Text.byteLength cs) false ds = .ok back →
        scanFrom (offset + c.utf8Size) flag (cs ++ ds) = .ok (glue tail back)) :
      scanFrom offset escaped (c :: cs ++ ds) = .ok (glue (consText offset c tail) back) := by
    rw [Text.byteLength_cons, ← Nat.add_assoc] at hback
    rw [List.cons_append, scanFrom_plain (hc.append hend ds), hflag, ih hend.tail ?_ hback,
      glue_consText]
    · rfl
    · rintro rfl rfl
      cases hend.eq_of_nil
      simp at hflag
  fun_induction scanFrom offset escaped cs generalizing front
  case case1 offset escaped =>
    cases hfront
    cases escaped with
    | true => exact absurd rfl (hescaped rfl)
    | false => exact hback
  case case5 | case7 | case8 => cases hfront
  case case2 offset c cs next ih =>
    obtain ⟨tail, htail, rfl⟩ := Outcome.map_eq_ok.mp hfront
    exact plain rfl (.inl rfl) hend hback fun hend hflag hback => ih hend hflag htail hback
  case case3 offset escaped cs unescaped next ih =>
    obtain ⟨tail, htail, rfl⟩ := Outcome.map_eq_ok.mp hfront
    exact plain (by simp [unescaped]) (.inr (.inl rfl)) hend hback fun hend hflag hback =>
      ih hend hflag htail hback
  case case4 offset escaped cs unescaped hname next _ ih =>
    obtain ⟨tail, htail, rfl⟩ := Outcome.map_eq_ok.mp hfront
    exact plain (by simp) (.inr (.inr ⟨fun _ => hname, by simp⟩)) hend hback fun hend hflag hback =>
      ih hend hflag htail hback
  case case10 offset escaped c cs next unescaped hslash hopen hlink ih =>
    obtain ⟨tail, htail, rfl⟩ := Outcome.map_eq_ok.mp hfront
    simp only [Bool.and_eq_true, decide_eq_true_eq, beq_iff_eq, not_and] at hlink
    exact plain (by simp [hslash]) (.inr (.inr ⟨fun ho => absurd ho hopen, hlink⟩)) hend hback
      fun hend hflag hback => ih hend hflag htail hback
  case case6 offset escaped cs unescaped name after hname body rest hbody _ call ih =>
    obtain ⟨tail, htail, rfl⟩ := Outcome.map_eq_ok.mp hfront
    simp only [Bool.not_eq_true] at unescaped
    have text : '(' :: cs = call.source.chars ++ rest := by
      rw [callName?_eq hname, takeCall_eq hbody]
      simp [call, buildCall]
    rw [text, Text.byteLength_append, ← Nat.add_assoc] at hback
    have hrest := hend.of_suffix (text ▸ List.suffix_append _ rest)
    rw [unescaped, List.cons_append, scanFrom_call (callName?_append hname ds)
      (takeCall_append hbody ds), ih hrest (by simp) htail hback]
    rfl
  case case9 offset escaped c cs unescaped hslash hopen hlink inner rest hinner stop link hbuild ih =>
    obtain ⟨tail, htail, rfl⟩ := Outcome.map_eq_ok.mp hfront
    simp only [Bool.not_eq_true] at unescaped
    obtain ⟨rfl, cs, rfl⟩ := opensLink hlink
    rw [List.drop_one, List.tail_cons] at hinner
    have text : '[' :: '[' :: cs = ('[' :: '[' :: inner ++ [']', ']']) ++ rest := by
      rw [takeLink_eq hinner]
      simp
    rw [text, Text.byteLength_append, byteLength_link, ← Nat.add_assoc, ← Nat.add_assoc,
      ← Nat.add_assoc] at hback
    have hrest := hend.of_suffix (text ▸ List.suffix_append _ rest)
    rw [unescaped, List.cons_append, List.cons_append, scanFrom_link (takeLink_append hinner ds),
      hbuild, ih hrest (by simp) htail hback]
    rfl

/-- If the last segment is plain text, the text ends with it. -/
theorem Cut.text_suffix {escaped : Bool} {offset : Nat} {cs : List Char} {segments : List Segment}
    (h : Cut escaped offset cs segments) {f : Fragment} (hf : segments.getLast? = some (.text f)) :
    f.chars <:+ cs := by
  induction h with
  | nil => cases hf
  | @text _ _ piece rest segments _ _ _ tail ih =>
      cases segments with
      | nil =>
          cases hf
          cases tail
          rw [List.append_nil]
      | cons next segments =>
          rw [List.getLast?_cons_cons] at hf
          exact (ih hf).trans (List.suffix_append piece rest)
  | @other _ piece rest segment segments _ kind _ _ tail ih =>
      cases segments with
      | nil =>
          cases hf
          cases kind
      | cons next segments =>
          rw [List.getLast?_cons_cons] at hf
          exact (ih hf).trans (List.suffix_append piece rest)

end Fiction.Markup
