import Fiction.Proofs.Expansion.Frame
import Fiction.Proofs.Expansion.Mirror
import Fiction.Proofs.Markup.Append

/-!
# Fiction.Proofs.Expansion.Sequence

**Markup is expanded in the order of the text.** Lines and what follows them can be expanded together
or one after the other.

* `markup_append` is the equation, for any caller. The text that follows keeps its position in it.
* `markupTop_moved` says that its position does not matter: the same text somewhere else is expanded to
  the same, with the same changes, or fails for the same cause.
-/

namespace Fiction

/-- A text with another one behind it. -/
def Fragment.followedBy (f g : Fragment) : Fragment :=
  ⟨f.offset, f.chars ++ g.chars⟩

namespace Expansion

/-! ## Segments -/

/-- Segments one behind the other are expanded one after the other. -/
theorem segments_glue (call : Caller) (expand : Fragment → Expansion String)
    {front back : List Segment}
    (hend : ∀ f, front.getLast? = some (.text f) → Markup.EndsLine f.chars) :
    segments call expand (Markup.glue front back) = (do
      let text ← segments call expand front
      let text' ← segments call expand back
      return text ++ text') := by
  fun_induction Markup.glue front back with
  | case1 back => simp only [segments, pure_bind, String.empty_append, bind_pure]
  | case2 f g back =>
      have unescaped := Markup.unescape_append (hend f rfl) g.chars
      simp only [segments, pure_bind, bind_assoc, unescaped, String.ofList_append, String.append_empty,
        String.append_assoc]
  | case3 segment front back _ ih =>
      have others : ∀ f, front.getLast? = some (.text f) → Markup.EndsLine f.chars := by
        intro f hf
        refine hend f ?_
        rw [List.getLast?_cons, hf]
        rfl
      cases segment with
      | text f => simp only [segments, ih others, bind_assoc, pure_bind, String.append_assoc]
      | call c => simp only [segments, ih others, bind_assoc, pure_bind, String.append_assoc]
      | link l => simp only [segments, ih others, bind_assoc, pure_bind, String.append_assoc]

/-- **Lines are expanded, and then what follows them.** -/
theorem markup_append (call : Caller) {f : Fragment} {cs : List Char} {front back : List Segment}
    (hend : Markup.EndsLine f.chars) (hfront : Markup.scan f = .ok front)
    (hback : Markup.scan ⟨f.stop, cs⟩ = .ok back) :
    markup call ⟨f.offset, f.chars ++ cs⟩ = (do
      let text ← markup call f
      let text' ← markup call ⟨f.stop, cs⟩
      return text ++ text') := by
  have both : Markup.scan ⟨f.offset, f.chars ++ cs⟩ = .ok (Markup.glue front back) :=
    Markup.scanFrom_append hend (by simp) hfront hback
  have last : ∀ g, front.getLast? = some (.text g) → Markup.EndsLine g.chars :=
    fun g hg => hend.of_suffix ((Markup.scanFrom_cut hfront).text_suffix hg)
  rw [markup_eq, markup_eq, markup_eq, both, hfront, hback]
  exact segments_glue call (markup call) last

/-! ## Positions -/

section

variable {s : Setting} {p q : Progress} {f f' : Fragment}

/-- **The same text is expanded to the same wherever it stands.** Only faults tell where that is. -/
theorem markupTop_moved (s : Setting) (p : Progress) (h : f.SameChars f') :
    Concur Eq ((markupTop f).runIn s p).1 ((markupTop f').runIn s p).1 ∧
      ((markupTop f').runIn s p).2 = ((markupTop f).runIn s p).2 := by
  obtain ⟨concur, mirror⟩ := mirrors_markupTop (Setting.Mirror.refl s) h.sameMarkup p p
    (.refl (fun _ => False) p)
  refine ⟨concur, mirror.eq ?_⟩
  rw [(markupTop_restores s f' p).1.source, (markupTop_restores s f p).1.source]

theorem markupTop_moved_ok {text : String} (h : f.SameChars f')
    (hrun : (markupTop f).runIn s p = (.ok text, q)) :
    (markupTop f').runIn s p = (.ok text, q) := by
  obtain ⟨concur, state⟩ := markupTop_moved s p h
  rw [hrun] at concur state
  exact Prod.ext concur.eq_ok state

theorem markupTop_moved_error {fault : Fault} (h : f.SameChars f')
    (hrun : (markupTop f).runIn s p = (.error fault, q)) :
    ∃ fault', (markupTop f').runIn s p = (.error fault', q) ∧ fault'.cause = fault.cause := by
  obtain ⟨concur, state⟩ := markupTop_moved s p h
  rw [hrun] at concur state
  obtain ⟨fault', failed, cause⟩ := concur.exists_error
  exact ⟨fault', Prod.ext failed state, cause⟩

end

/-! ## Two texts -/

theorem runIn_followedBy {f g : Fragment} (hend : Markup.EndsLine f.chars)
    (hf : (Markup.scan f).isOk) (hg : (Markup.scan g).isOk) (s : Setting) (p : Progress) :
    (markupTop (f.followedBy g)).runIn s p = Expansion.runIn (do
      let text ← markupTop f
      let text' ← markupTop ⟨f.stop, g.chars⟩
      return text ++ text') s p := by
  have same : SameMarkup (fun _ => False) p.source g ⟨f.stop, g.chars⟩ :=
    Fragment.SameChars.sameMarkup rfl
  obtain ⟨front, hfront⟩ := Outcome.isOk_iff.mp hf
  obtain ⟨back, hback⟩ := Outcome.isOk_iff.mp (same.isOk.trans hg)
  have top : (markupTop f).runIn s p = (markup (callWith (s.limit - p.depth)) f).runIn s p := rfl
  have depth := (markupTop_restores s f p).1.depth
  rw [markupTop, runIn_room, Fragment.followedBy, markup_append _ hend hfront hback, runIn_bind,
    runIn_bind, ← top]
  rcases h : (markupTop f).runIn s p with ⟨r, q⟩
  cases r with
  | error fault => rfl
  | ok text =>
      -- the levels left are the same behind the first text
      rw [h] at depth
      dsimp only at depth ⊢
      rw [← depth]
      rfl

/-- **Markup is expanded in the order of the text.** Let a text end with a line, and let it and another
one have no calls or links that are not closed. Expanding both as one text is expanding the first and
then, from the progress that this left, the second: the texts come one behind the other, and variables,
chance and links are the same in the end. If the first one fails, so does the whole, in the same way; if
the second one does, the whole fails for the same cause. -/
theorem markupTop_in_order {f g : Fragment} (hend : f.chars.getLast? = some '\n')
    (hf : (Markup.scan f).isOk) (hg : (Markup.scan g).isOk) (s : Setting) (p : Progress) :
    (∀ fault q, (markupTop f).runIn s p = (.error fault, q) →
      (markupTop (f.followedBy g)).runIn s p = (.error fault, q)) ∧
    (∀ text q text' r, (markupTop f).runIn s p = (.ok text, q) →
      (markupTop g).runIn s q = (.ok text', r) →
      (markupTop (f.followedBy g)).runIn s p = (.ok (text ++ text'), r)) ∧
    (∀ text q fault r, (markupTop f).runIn s p = (.ok text, q) →
      (markupTop g).runIn s q = (.error fault, r) →
      ∃ fault', (markupTop (f.followedBy g)).runIn s p = (.error fault', r) ∧
        fault'.cause = fault.cause) := by
  have ends : Markup.EndsLine f.chars := by
    intro c hc
    rw [hend] at hc
    exact (Option.some.inj hc).symm
  have moved : g.SameChars ⟨f.stop, g.chars⟩ := rfl
  rw [runIn_followedBy ends hf hg, runIn_bind]
  refine ⟨?_, ?_, ?_⟩
  · intro fault q first
    rw [first]
  · intro text q text' r first second
    rw [first]
    dsimp only
    rw [runIn_bind, markupTop_moved_ok moved second]
    rfl
  · intro text q fault r first second
    obtain ⟨fault', failed, cause⟩ := markupTop_moved_error moved second
    refine ⟨fault', ?_, cause⟩
    rw [first]
    dsimp only
    rw [runIn_bind, failed]

/-- A line with a backslash at its end. -/
def verse : Fragment :=
  .ofString "(set~ doors ~ 2)Two doors\\\n"

/-- A text that starts with a parenthesis and looks at what the line has set. -/
def refrain : Fragment :=
  .ofString ") and (eval~ doors) keys [[on|hall]]"

/-- The backslash stands for itself, as if nothing followed the line. -/
theorem verse_in_order :
    verse.chars.getLast? = some '\n' ∧ (Markup.scan verse).isOk ∧ (Markup.scan refrain).isOk ∧
      (markupTop (verse.followedBy refrain)).runIn asideSetting asideProgress =
        (.ok ("Two doors\\\n" ++ ") and 2 keys on"), ((markupTop refrain).runIn asideSetting
          ((markupTop verse).runIn asideSetting asideProgress).2).2) := by
  have ends : verse.chars.getLast? = some '\n' := by decide +kernel
  have first : (Markup.scan verse).isOk := by decide +kernel
  have second : (Markup.scan refrain).isOk := by decide +kernel
  obtain ⟨-, together, -⟩ := markupTop_in_order ends first second asideSetting asideProgress
  exact ⟨ends, first, second,
    together _ _ _ _ (Prod.ext (by decide +kernel) rfl) (Prod.ext (by decide +kernel) rfl)⟩

end Expansion

end Fiction
