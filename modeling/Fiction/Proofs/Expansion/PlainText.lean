import Fiction.Proofs.Expansion.Keeps
import Fiction.Proofs.Markup.Extent

/-!
# Fiction.Proofs.Expansion.PlainText

**Every text can be written in markup.** The scanner passes over any character behind a backslash, but
only some of these backslashes are removed again. On an escaped text the two agree.

* `Markup.AllPlain` is a text without calls and links, and `Markup.scanFrom_of_allPlain` says that it is
  scanned as one segment.
* `Markup.allPlain_escape` and `Markup.unescape_escape` are the two sides of escaping: the scanner finds
  plain text only, and what it stands for is the text that was escaped.
* `Expansion.runIn_markup_of_allPlain`: expanding plain text removes the escapes and does nothing else.
-/

namespace Fiction

namespace Markup

/-! ## Scanning -/

/-- Every character of a text is plain text where it stands. -/
def AllPlain : (escaped : Bool) → List Char → Prop
  | _, [] => True
  | escaped, c :: cs => IsPlainAt escaped c cs ∧ AllPlain (!escaped && c = '\\') cs

/-- A segment of plain text, unless there is no text. -/
def plainSegments (f : Fragment) : List Segment :=
  if f.chars.isEmpty then [] else [.text f]

theorem scanFrom_of_allPlain {offset : Nat} {escaped : Bool} {cs : List Char}
    (h : AllPlain escaped cs) :
    scanFrom offset escaped cs = .ok (plainSegments ⟨offset, cs⟩) := by
  induction cs generalizing offset escaped with
  | nil =>
      rw [scanFrom]
      rfl
  | cons c cs ih =>
      rw [scanFrom_plain h.1, ih h.2]
      cases cs with
      | nil => rfl
      | cons d cs => rfl

/-! ## Escapes -/

theorem unescape_cons {c : Char} (h : c ≠ '\\') (cs : List Char) :
    unescape (c :: cs) = c :: unescape cs := by
  rw [unescape]
  · exact fun slash _ => h slash
  · exact fun _ _ slash _ => h slash

theorem ne_slash_of_not_escapable {c : Char} (h : ¬ escapable.contains c = true) : c ≠ '\\' := by
  rintro rfl
  exact h (by decide)

/-- In an escaped text brackets stand behind backslashes, and so do the backslashes of the text. -/
theorem allPlain_escape (cs : List Char) : AllPlain false (escape cs) := by
  induction cs with
  | nil => trivial
  | cons c cs ih =>
      rw [escape]
      split
      · exact ⟨.inr (.inl rfl), .inl rfl, ih⟩
      · next plain =>
          refine ⟨.inr (.inr ⟨?_, ?_⟩), ?_⟩
          · rintro rfl
            exact absurd (by decide) plain
          · rintro rfl
            exact absurd (by decide) plain
          · simpa [ne_slash_of_not_escapable plain] using ih

/-- An escaped text stands for the text. -/
theorem unescape_escape (cs : List Char) : unescape (escape cs) = cs := by
  induction cs with
  | nil => rfl
  | cons c cs ih =>
      rw [escape]
      split
      · next escaped => rw [unescape, if_pos escaped, ih]
      · next plain => rw [unescape_cons (ne_slash_of_not_escapable plain), ih]

end Markup

namespace Expansion

/-- Plain text expands to what it stands for. -/
theorem runIn_markup_of_allPlain {call : Caller} {s : Setting} {p : Progress} {f : Fragment}
    (h : Markup.AllPlain false f.chars) :
    (markup call f).runIn s p = (.ok (String.ofList (Markup.unescape f.chars)), p) := by
  have scanned : Markup.scan f = .ok (Markup.plainSegments f) := Markup.scanFrom_of_allPlain h
  unfold markup nestedMarkup
  rw [scanned, ofFlaw]
  obtain ⟨offset, cs⟩ := f
  cases cs with
  | nil => rfl
  | cons c cs =>
      have alone : String.ofList (Markup.unescape (c :: cs)) ++ "" =
          String.ofList (Markup.unescape (c :: cs)) := String.append_empty
      rw [← alone]
      rfl

/-- **Every text can be written in markup.** An escaped text is scanned as one segment of plain text, or
none if it is empty. Expanding it gives the text, whatever the setting and the progress, which stays as it
is: no link is added and no variable changed. -/
theorem escaped_text_expands_to_itself (s : Setting) (p : Progress) (offset : Nat) (text : String) :
    let escaped : Fragment := ⟨offset, Markup.escape text.toList⟩
    (Markup.scan escaped = .ok [] ∨ Markup.scan escaped = .ok [.text escaped]) ∧
      (markupTop escaped).runIn s p = (.ok text, p) := by
  intro escaped
  have plain : Markup.AllPlain false escaped.chars := Markup.allPlain_escape text.toList
  constructor
  · have scanned : Markup.scan escaped = .ok (Markup.plainSegments escaped) :=
      Markup.scanFrom_of_allPlain plain
    rw [scanned, Markup.plainSegments]
    split
    · exact .inl rfl
    · exact .inr rfl
  · rw [markupTop, runIn_room, runIn_markup_of_allPlain plain, Markup.unescape_escape,
      String.ofList_toList]

end Expansion

end Fiction
