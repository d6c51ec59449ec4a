import Fiction.Markup.Escape
import Fiction.Markup.Scan
import Fiction.Proofs.Text.Search
import Fiction.Proofs.Text.Trim
import Mathlib.Data.List.Infix

/-!
# Fiction.Proofs.Markup.Pieces

**Scanning takes pieces out of a text and makes nothing up.** Whatever a scanner hands on to be
expanded later is a contiguous piece of the text it was given, and it stands at the position that it
claims:

* `Fragment.PartOf` is a fragment that can be found in another one at its own position;
* `Span.Within` is a range of positions inside of a fragment.

The parts of calls and links are such pieces (`mem_arguments`, `buildLink_sound`), and so is the start
`(name~` of every call that is recognised and the inside of a quoted text. `Call.Within`,
`LinkText.Within` and `Segment.Within` collect this, and `scan_sound` is the result for a whole
fragment: what is found stands in it, and so does the flaw if there is one.

Nothing is unescaped on the way, so a text without a certain call in it can produce no such call.
-/

namespace Fiction

/-! ## Results that are not failures -/

theorem Outcome.isOk_iff {ε α : Type} {x : Except ε α} : x.isOk = true ↔ ∃ a, x = .ok a := by
  cases x with
  | ok a => exact ⟨fun _ => ⟨a, rfl⟩, fun _ => rfl⟩
  | error e => exact ⟨fun h => absurd h Bool.false_ne_true, fun ⟨_, h⟩ => (nomatch h)⟩

/-- A sequence of two steps succeeds exactly when both do. -/
theorem Outcome.bind_eq_ok {ε α β : Type} {x : Except ε α} {f : α → Except ε β} {b : β} :
    x >>= f = .ok b ↔ ∃ a, x = .ok a ∧ f a = .ok b := by
  cases x with
  | ok a => exact ⟨fun h => ⟨a, rfl, h⟩, fun ⟨_, ha, h⟩ => Except.ok.inj ha ▸ h⟩
  | error e => exact ⟨fun h => (nomatch h), fun ⟨_, h, _⟩ => (nomatch h)⟩

/-- A step with a function behind it succeeds exactly when the step does. -/
theorem Outcome.map_eq_ok {ε α β : Type} {x : Except ε α} {f : α → β} {b : β} :
    f <$> x = .ok b ↔ ∃ a, x = .ok a ∧ f a = b := by
  cases x with
  | ok a =>
      exact ⟨fun h => ⟨a, rfl, Except.ok.inj h⟩, fun ⟨_, ha, h⟩ => by cases ha; exact congrArg _ h⟩
  | error e => exact ⟨fun h => (nomatch h), fun ⟨_, h, _⟩ => (nomatch h)⟩

/-! ## Results that may be flaws -/

/-- What is read has one property, and if nothing can be read, the flaw has another. -/
def Reads {α : Type} (flawed : Flaw → Prop) (P : α → Prop) : Except Flaw α → Prop
  | .ok a => P a
  | .error flaw => flawed flaw

namespace Reads

variable {α β : Type} {flawed flawed' : Flaw → Prop} {P P' : α → Prop} {Q : β → Prop}
  {x : Except Flaw α}

theorem bind {f : α → Except Flaw β} (h : Reads flawed P x)
    (hf : ∀ a, P a → Reads flawed Q (f a)) : Reads flawed Q (x >>= f) := by
  cases x with
  | ok a => exact hf a h
  | error flaw => exact h

theorem map {f : α → β} (h : Reads flawed P x) (hf : ∀ a, P a → Q (f a)) :
    Reads flawed Q (f <$> x) := by
  cases x with
  | ok a => exact hf a h
  | error flaw => exact h

theorem mono (h : Reads flawed P x) (hflawed : ∀ flaw, flawed flaw → flawed' flaw)
    (hP : ∀ a, P a → P' a) : Reads flawed' P' x := by
  cases x with
  | ok a => exact hP a h
  | error flaw => exact hflawed flaw h

theorem of_ok {a : α} (h : Reads flawed P x) (hx : x = .ok a) : P a := by
  rw [hx] at h
  exact h

theorem of_error {flaw : Flaw} (h : Reads flawed P x) (hx : x = .error flaw) : flawed flaw := by
  rw [hx] at h
  exact h

end Reads

/-- What is read has one property, and if nothing can be read, the place of the flaw has another. -/
def Sound {α : Type} (placed : Span → Prop) (P : α → Prop) : Except Flaw α → Prop :=
  Reads (placed ·.span) P

namespace Sound

variable {α β : Type} {placed placed' : Span → Prop} {P P' : α → Prop} {Q : β → Prop}
  {x : Except Flaw α}

theorem bind {f : α → Except Flaw β} (h : Sound placed P x)
    (hf : ∀ a, P a → Sound placed Q (f a)) : Sound placed Q (x >>= f) :=
  Reads.bind h hf

theorem map {f : α → β} (h : Sound placed P x) (hf : ∀ a, P a → Q (f a)) :
    Sound placed Q (f <$> x) :=
  Reads.map h hf

theorem mono (h : Sound placed P x) (hplaced : ∀ span, placed span → placed' span)
    (hP : ∀ a, P a → P' a) : Sound placed' P' x :=
  Reads.mono h (fun flaw => hplaced flaw.span) hP

theorem of_ok {a : α} (h : Sound placed P x) (hx : x = .ok a) : P a :=
  Reads.of_ok h hx

theorem of_error {flaw : Flaw} (h : Sound placed P x) (hx : x = .error flaw) :
    placed flaw.span :=
  Reads.of_error h hx

end Sound

/-! ## Broken markup -/

/-- The causes that only markup has which cannot be taken apart: a call or a link without an end, and
something else than commands in the part of a link that holds these. -/
def Cause.isBrokenMarkup : Cause → Bool
  | .unterminatedCall _ | .unterminatedLink | .malformedLink .notCommand => true
  | _ => false

/-! ## Ranges and fragments of fragments -/

/-- A range that lies in a fragment. -/
structure Span.Within (s : Span) (f : Fragment) : Prop where
  lower : f.offset ≤ s.start
  ordered : s.start ≤ s.stop
  upper : s.stop ≤ f.stop

/-- A fragment that stands in another one, at its position. -/
def Fragment.PartOf (f g : Fragment) : Prop :=
  ∃ before after, g.chars = before ++ (f.chars ++ after) ∧
    f.offset = g.offset + Text.byteLength before

namespace Fragment

variable {f g h : Fragment}

theorem PartOf.refl (f : Fragment) : f.PartOf f :=
  ⟨[], [], by simp, rfl⟩

theorem PartOf.trans (hf : f.PartOf g) (hg : g.PartOf h) : f.PartOf h := by
  obtain ⟨before, after, text, position⟩ := hf
  obtain ⟨before', after', text', position'⟩ := hg
  refine ⟨before' ++ before, after ++ after', ?_, ?_⟩
  · rw [text', text]
    simp only [List.append_assoc]
  · rw [position, position', Text.byteLength_append, Nat.add_assoc]

theorem PartOf.isInfix (hf : f.PartOf g) : f.chars <:+: g.chars := by
  obtain ⟨before, after, text, -⟩ := hf
  exact ⟨before, after, by rw [text, List.append_assoc]⟩

theorem PartOf.offset_le (hf : f.PartOf g) : g.offset ≤ f.offset := by
  obtain ⟨before, after, -, position⟩ := hf
  omega

theorem PartOf.stop_le (hf : f.PartOf g) : f.stop ≤ g.stop := by
  obtain ⟨before, after, text, position⟩ := hf
  rw [stop, stop, text, position]
  simp only [Text.byteLength_append]
  omega

/-- The range of a part lies in the whole. -/
theorem PartOf.span_within (hf : f.PartOf g) : f.span.Within g :=
  ⟨hf.offset_le, Nat.le_add_right _ _, hf.stop_le⟩

/-- What is behind the first character. -/
theorem tail_partOf (offset : Nat) (c : Char) (cs : List Char) :
    PartOf ⟨offset + c.utf8Size, cs⟩ ⟨offset, c :: cs⟩ :=
  ⟨[c], [], by simp, by simp⟩

/-- What is behind a number of characters. -/
theorem drop_partOf (f : Fragment) (n : Nat) : (f.drop n).PartOf f :=
  ⟨f.chars.take n, [], by simp [drop], rfl⟩

/-- Nothing, at the end. -/
theorem end_partOf (f : Fragment) : PartOf ⟨f.stop, []⟩ f :=
  ⟨f.chars, [], by simp, rfl⟩

end Fragment

namespace Span.Within

variable {s t : Span} {f g : Fragment}

theorem mono (hs : s.Within f) (hf : f.PartOf g) : s.Within g :=
  ⟨hf.offset_le.trans hs.lower, hs.ordered, hs.upper.trans hf.stop_le⟩

theorem join (hs : s.Within f) (ht : t.Within f) : (s.join t).Within f := by
  obtain ⟨lower, ordered, upper⟩ := hs
  obtain ⟨lower', ordered', upper'⟩ := ht
  constructor
  · exact Nat.le_min.mpr ⟨lower, lower'⟩
  · exact (Nat.min_le_left _ _).trans (ordered.trans (Nat.le_max_left _ _))
  · exact Nat.max_le.mpr ⟨upper, upper'⟩

end Span.Within

/-! ## Trimming and splitting -/

/-- Trimming leaves a part of the fragment. -/
theorem Fragment.trim_partOf (f : Fragment) : f.trim.PartOf f := by
  obtain ⟨back, -, whole⟩ := Text.exists_trim_surrounded f.chars
  exact ⟨f.chars.takeWhile Text.isBlank, back, whole.trans (List.append_assoc _ _ _), rfl⟩

/-- What stands in a fragment does so without the blanks at its ends. -/
theorem Span.Within.trim {f g : Fragment} (h : f.span.Within g) : f.trim.span.Within g :=
  ⟨h.lower.trans f.trim_partOf.offset_le, Nat.le_add_right _ _, f.trim_partOf.stop_le.trans h.upper⟩

namespace Bracketing

variable (b : Bracketing) (delimiter : Char)

/-- However a text is split, there is a first part. -/
theorem splitTop_ne_nil (n : Nesting) (cs : List Char) : b.splitTop delimiter n cs ≠ [] := by
  cases cs with
  | nil => exact List.cons_ne_nil _ _
  | cons c cs =>
      rw [splitTop]
      split
      · exact List.cons_ne_nil _ _
      · exact Text.consPiece_ne_nil c _

/-- The parts of a text, joined by the delimiter, are the text. -/
theorem join_splitTop (n : Nesting) (cs : List Char) :
    Text.join [delimiter] (b.splitTop delimiter n cs) = cs := by
  induction cs generalizing n with
  | nil => rfl
  | cons c cs ih =>
      rw [splitTop]
      split
      · next cut =>
          simp only [Bool.and_eq_true, beq_iff_eq] at cut
          rw [Text.join_cons_of_ne_nil _ _ (b.splitTop_ne_nil delimiter n cs), ih, cut.1.2]
          rfl
      · rw [Text.join_consPiece, ih]

end Bracketing

namespace Fragment

/-- Pieces that are placed are parts of the joined text. -/
theorem mem_place {delimiter : Char} {offset : Nat} {pieces : List (List Char)} {f : Fragment}
    (h : f ∈ place delimiter offset pieces) : f.PartOf ⟨offset, Text.join [delimiter] pieces⟩ := by
  induction pieces generalizing offset with
  | nil => cases h
  | cons piece rest ih =>
      rw [place] at h
      cases rest with
      | nil =>
          cases List.mem_singleton.mp h
          exact PartOf.refl _
      | cons next rest =>
          rw [Text.join_cons_of_ne_nil _ _ (List.cons_ne_nil _ _)]
          rcases List.mem_cons.mp h with rfl | h
          · exact ⟨[], _, rfl, rfl⟩
          · refine (ih h).trans ⟨piece ++ [delimiter], [], by simp, ?_⟩
            simp [Nat.add_assoc]

/-- The parts between delimiters are parts of the fragment. -/
theorem mem_splitTop {b : Bracketing} {delimiter : Char} {f part : Fragment}
    (h : part ∈ f.splitTop b delimiter) : part.PartOf f := by
  have placed := mem_place h
  rwa [b.join_splitTop] at placed

end Fragment

/-! ## Quoted texts -/

/-- A text with the same character at both ends. -/
theorem Text.eq_enclosed_iff {c : Char} {cs inner : List Char} : cs = c :: (inner ++ [c]) ↔
    (2 ≤ cs.length ∧ cs.head? = some c ∧ cs.getLast? = some c) ∧ cs.tail.dropLast = inner := by
  have ends (d : Char) (front : List Char) : (c :: (front ++ [d])).getLast? = some d := by
    rw [← List.cons_append, List.getLast?_concat]
  constructor
  · rintro rfl
    simp [ends]
  · rintro ⟨⟨long, first, last⟩, rfl⟩
    obtain ⟨ds, rfl⟩ := List.head?_eq_some_iff.mp first
    rcases List.eq_nil_or_concat ds with rfl | ⟨front, d, rfl⟩
    · simp at long
    · rw [List.concat_eq_append, ends] at last
      cases last
      simp

/-- **What is inside of a quoted text.** Without blanks around it, the fragment is the inside between two
quotes. -/
theorem Fragment.quotedBody?_eq_some_iff {f body : Fragment} :
    f.quotedBody? = some body ↔ f.trim.chars = '"' :: (body.chars ++ ['"']) ∧
      body.offset = f.trim.offset + 1 ∧ Markup.isQuotable false body.chars = true := by
  rw [Text.eq_enclosed_iff, quotedBody?, Option.ite_none_right_eq_some]
  constructor
  · rintro ⟨⟨long, first, last, inside⟩, ⟨⟩⟩
    exact ⟨⟨⟨long, first, last⟩, rfl⟩, rfl, inside⟩
  · obtain ⟨offset, chars⟩ := body
    rintro ⟨⟨⟨long, first, last⟩, rfl⟩, rfl, inside⟩
    exact ⟨⟨long, first, last, inside⟩, rfl⟩

/-- The inside of a quoted text is a part of the fragment. -/
theorem Fragment.quotedBody?_partOf {f body : Fragment} (h : f.quotedBody? = some body) :
    body.PartOf f := by
  obtain ⟨chars, offset, -⟩ := quotedBody?_eq_some_iff.mp h
  exact PartOf.trans ⟨['"'], ['"'], chars, offset⟩ f.trim_partOf

/-- What is expanded of an argument that holds markup is a part of it. -/
theorem Fragment.inside_partOf (f : Fragment) : (f.quotedBody?.getD f.trim).PartOf f := by
  cases h : f.quotedBody? with
  | none => exact f.trim_partOf
  | some body => exact quotedBody?_partOf h

/-! ## Calls -/

/-- How a call with a name starts. -/
def callHead (name : String) : List Char :=
  '(' :: name.toList ++ ['~']

/-- A call stands in a fragment: its start, the whole of it and its arguments do. -/
structure Call.Within (c : Call) (f : Fragment) : Prop where
  head : Fragment.PartOf ⟨c.source.offset, callHead c.name⟩ f
  source : c.source.PartOf f
  args : ∀ a ∈ c.args, a.PartOf f

theorem Call.Within.mono {c : Call} {f g : Fragment} (h : c.Within f) (hf : f.PartOf g) :
    c.Within g :=
  ⟨h.head.trans hf, h.source.trans hf, fun a ha => (h.args a ha).trans hf⟩

namespace Markup

/-- The name of a call is followed by a tilde. -/
theorem callName?_eq {cs name body : List Char} (h : callName? cs = some (name, body)) :
    cs = name ++ '~' :: body := by
  cases cs with
  | nil => simp [callName?] at h
  | cons c cs =>
      rw [callName?] at h
      split at h
      · split at h
        · next hd =>
            simp only [Option.some.injEq, Prod.mk.injEq] at h
            rw [← h.1, ← h.2, List.cons_append, ← hd, List.takeWhile_append_dropWhile]
        · simp at h
      · simp at h

/-- The arguments in the body of a call are parts of it. -/
theorem mem_arguments {body arg : Fragment} (h : arg ∈ arguments body) : arg.PartOf body := by
  have split {f : Fragment} (h : arg ∈ if f.isBlank then [] else f.splitTop .argument '~') :
      arg.PartOf f := by
    split at h
    · cases h
    · exact Fragment.mem_splitTop h
  unfold arguments at h
  dsimp only at h
  split at h
  · exact (split h).trans (body.drop_partOf _)
  · exact split h

/-- A call that is taken from behind an opening parenthesis stands in the text. -/
theorem buildCall_within (offset : Nat) (name body rest : List Char) :
    (buildCall offset '(' name body).Within
      ⟨offset, '(' :: (name ++ '~' :: (body ++ ')' :: rest))⟩ := by
  have tilde : '~'.utf8Size = 1 := by decide
  constructor
  · exact ⟨[], body ++ ')' :: rest, by simp [buildCall, callHead], rfl⟩
  · exact ⟨[], rest, by simp [buildCall], rfl⟩
  · intro a ha
    refine (mem_arguments ha).trans ⟨'(' :: name ++ ['~'], ')' :: rest, by simp, ?_⟩
    simp [tilde]
    omega

/-! ## Calls that are not closed -/

/-- The quote that was opened last is one that was known or stands in the text. -/
theorem lastQuote_bounds (n : Nesting) (pos : Nat) {first found : Nat} (cs : List Char)
    (hfirst : first ≤ found) (hfound : found ≤ pos) :
    first ≤ lastQuote n pos found cs ∧ lastQuote n pos found cs ≤ pos + Text.byteLength cs := by
  induction cs generalizing n pos found with
  | nil => exact ⟨hfirst, hfound⟩
  | cons c cs ih =>
      rw [lastQuote, Text.byteLength_cons]
      split
      · have bounds := ih (Bracketing.call.step n c) (pos + c.utf8Size) (hfirst.trans hfound)
          (Nat.le_add_right pos _)
        omega
      · have bounds := ih (Bracketing.call.step n c) (pos + c.utf8Size) hfirst (by omega)
        omega

/-- A call that is not closed is reported in the text it starts. -/
theorem unclosedCall_within (name : String) (offset : Nat) (text : List Char) :
    (unclosedCall name offset text).span.Within ⟨offset, text⟩ := by
  unfold unclosedCall
  dsimp only
  split
  · obtain ⟨lower, upper⟩ :=
      lastQuote_bounds .top offset text (Nat.le_refl offset) (Nat.le_refl offset)
    exact ⟨lower, upper, Nat.le_refl _⟩
  · exact ⟨Nat.le_refl _, Nat.le_add_right _ _, Nat.le_refl _⟩

/-! ## Links -/

/-- A link ends with two brackets. -/
theorem takeLink_eq {n : Nesting} {cs inner rest : List Char}
    (h : takeLink n cs = some (inner, rest)) : cs = inner ++ ']' :: ']' :: rest := by
  induction cs generalizing n inner rest with
  | nil => simp [takeLink] at h
  | cons c cs ih =>
      rw [takeLink] at h
      split at h
      · next hc =>
          simp only [Bool.and_eq_true, beq_iff_eq] at hc
          simp only [Option.some.injEq, Prod.mk.injEq] at h
          obtain ⟨tail, rfl⟩ := List.head?_eq_some_iff.mp hc.2
          rw [← h.1, ← h.2, hc.1.2]
          rfl
      · obtain ⟨⟨i, r⟩, hl, he⟩ := Option.map_eq_some_iff.mp h
        simp only [Prod.mk.injEq] at he
        rw [← he.1, ← he.2, ih hl, List.cons_append]

end Markup

/-- A link stands in a fragment, with all its parts. -/
structure LinkText.Within (l : LinkText) (f : Fragment) : Prop where
  span : l.span.Within f
  label : l.label.PartOf f
  target : l.target.PartOf f
  traversal : ∀ t ∈ l.traversal, t.PartOf f

theorem LinkText.Within.mono {l : LinkText} {f g : Fragment} (h : l.Within f) (hf : f.PartOf g) :
    l.Within g :=
  ⟨h.span.mono hf, h.label.trans hf, h.target.trans hf, fun t ht => (h.traversal t ht).trans hf⟩

/-- A link is made of parts of its inside. -/
theorem Markup.buildLink_sound {span : Span} {inner f : Fragment} (hspan : span.Within f)
    (hinner : inner.PartOf f) : Sound (·.Within f) (·.Within f) (buildLink span inner) := by
  have part {p : Fragment} (hp : p ∈ inner.splitTop .link '|') : p.PartOf f :=
    (Fragment.mem_splitTop hp).trans hinner
  -- what is the same for all numbers of parts
  have build {label target : Fragment} {traversal : Option Fragment} (hlabel : label.PartOf f)
      (htarget : target.PartOf f) (htraversal : ∀ t ∈ traversal, t.PartOf f) :
      Sound (·.Within f) (·.Within f)
        (if target.isBlank then .error (.of (.malformedLink .noTarget) span)
          else .ok ⟨label, target, traversal, span⟩ : Except Flaw LinkText) := by
    split
    · exact hspan
    · exact ⟨hspan, hlabel, htarget, htraversal⟩
  unfold buildLink
  dsimp only
  split
  · next only hp => exact build (part (by simp [hp])) (part (by simp [hp])) (by simp)
  · next label target hp => exact build (part (by simp [hp])) (part (by simp [hp])) (by simp)
  · next label target traversal hp =>
      refine build (part (by simp [hp])) (part (by simp [hp])) ?_
      rintro _ ⟨⟩
      exact part (by simp [hp])
  · exact hspan

namespace Markup

/-- The text of a link that is found behind two brackets. -/
theorem link_eq {c : Char} {cs inner rest : List Char}
    (hopen : (decide (c = '[') && cs.head? == some '[') = true)
    (h : takeLink .top (cs.drop 1) = some (inner, rest)) :
    c :: cs = '[' :: '[' :: (inner ++ ']' :: ']' :: rest) := by
  simp only [Bool.and_eq_true, decide_eq_true_eq, beq_iff_eq] at hopen
  obtain ⟨tail, rfl⟩ := List.head?_eq_some_iff.mp hopen.2
  rw [hopen.1, ← takeLink_eq h]
  rfl

theorem byteLength_link (inner : List Char) :
    Text.byteLength ('[' :: '[' :: inner ++ [']', ']']) = 2 + Text.byteLength inner + 2 := by
  have opening : '['.utf8Size = 1 := by decide
  have closing : ']'.utf8Size = 1 := by decide
  simp only [List.cons_append, Text.byteLength_cons, Text.byteLength_append, Text.byteLength_nil,
    opening, closing]
  omega

/-- A link that the scanner builds stands in the text it is taken from. -/
theorem scannedLink_sound (offset : Nat) (inner rest : List Char) :
    Sound (·.Within ⟨offset, '[' :: '[' :: (inner ++ ']' :: ']' :: rest)⟩)
      (·.Within ⟨offset, '[' :: '[' :: (inner ++ ']' :: ']' :: rest)⟩)
      (buildLink ⟨offset, offset + 2 + Text.byteLength inner + 2⟩ ⟨offset + 2, inner⟩) := by
  have whole : Fragment.PartOf ⟨offset, '[' :: '[' :: inner ++ [']', ']']⟩
      ⟨offset, '[' :: '[' :: (inner ++ ']' :: ']' :: rest)⟩ := ⟨[], rest, by simp, rfl⟩
  have range : (⟨offset, offset + 2 + Text.byteLength inner + 2⟩ : Span) =
      Fragment.span ⟨offset, '[' :: '[' :: inner ++ [']', ']']⟩ := by
    rw [Fragment.span, Fragment.stop, byteLength_link, ← Nat.add_assoc, ← Nat.add_assoc]
  rw [range]
  exact buildLink_sound whole.span_within ⟨['[', '['], ']' :: ']' :: rest, rfl, rfl⟩

end Markup

/-! ## Segments -/

/-- A segment stands in a fragment. Of plain text only the range is of interest. -/
def Segment.Within (f : Fragment) : Segment → Prop
  | .text t => t.span.Within f
  | .call c => c.Within f
  | .link l => l.Within f

theorem Segment.Within.mono {segment : Segment} {f g : Fragment} (h : segment.Within f)
    (hf : f.PartOf g) : segment.Within g := by
  cases segment with
  | text _ => exact Span.Within.mono h hf
  | call _ => exact Call.Within.mono h hf
  | link _ => exact LinkText.Within.mono h hf

namespace Markup

/-- A character in front of the text that segments start with. -/
theorem consText_within {offset : Nat} {c : Char} {segments : List Segment} {cs : List Char}
    (h : ∀ segment ∈ segments, segment.Within ⟨offset + c.utf8Size, cs⟩) :
    ∀ segment ∈ consText offset c segments, segment.Within ⟨offset, c :: cs⟩ := by
  have tail : ∀ segment ∈ segments, segment.Within ⟨offset, c :: cs⟩ :=
    fun segment hs => (h segment hs).mono (Fragment.tail_partOf offset c cs)
  unfold consText
  split
  · next t rest =>
      rw [List.forall_mem_cons] at tail ⊢
      -- the text behind the character may start later than the character ends
      obtain ⟨lower, -, upper⟩ : t.span.Within ⟨offset + c.utf8Size, cs⟩ :=
        h (.text t) List.mem_cons_self
      refine ⟨⟨Nat.le_refl _, Nat.le_add_right _ _, ?_⟩, tail.2⟩
      simp only [Fragment.span, Fragment.stop, Text.byteLength_cons] at lower upper ⊢
      omega
  · rw [List.forall_mem_cons]
    refine ⟨⟨Nat.le_refl _, Nat.le_add_right _ _, ?_⟩, tail⟩
    simp only [Fragment.span, Fragment.stop, Text.byteLength_cons, Text.byteLength_nil]
    omega

/-- A segment in front of those of the rest. -/
theorem consSegment_within {segment : Segment} {segments : List Segment} {f rest : Fragment}
    (hsegment : segment.Within f) (hrest : rest.PartOf f)
    (h : ∀ segment ∈ segments, segment.Within rest) :
    ∀ other ∈ segment :: segments, other.Within f :=
  List.forall_mem_cons.mpr ⟨hsegment, fun other ho => (h other ho).mono hrest⟩

/-- All segments of a text stand in it, and so does what keeps it from being scanned. -/
theorem scanFrom_sound (offset : Nat) (escaped : Bool) (cs : List Char) :
    Sound (·.Within ⟨offset, cs⟩) (fun segments => ∀ segment ∈ segments, segment.Within ⟨offset, cs⟩)
      (scanFrom offset escaped cs) := by
  fun_induction scanFrom offset escaped cs
  case case1 => exact fun _ h => nomatch h
  -- the cases in which a character is plain text
  case case2 c cs next ih | case3 c cs next _ ih | case4 c cs next _ _ ih | case10 c cs next _ _ _ ih =>
    exact (ih.mono (fun _ h => h.mono (Fragment.tail_partOf _ _ _)) fun _ h => h).map
      fun _ => consText_within
  -- the cases in which something is not closed
  case case5 => exact unclosedCall_within _ _ _
  case case7 => exact ⟨Nat.le_refl _, Nat.le_add_right _ _, Nat.le_refl _⟩
  case case6 offset _ cs _ name rest hn body rest' hc _ call ih =>
    have text : '(' :: cs = '(' :: (name ++ '~' :: (body ++ ')' :: rest')) := by
      rw [callName?_eq hn, takeCall_eq hc]
    rw [text]
    have behind : Fragment.PartOf ⟨call.source.stop, rest'⟩
        ⟨offset, '(' :: (name ++ '~' :: (body ++ ')' :: rest'))⟩ :=
      ⟨call.source.chars, [], by simp [call, buildCall], rfl⟩
    refine (ih.mono (fun _ h => h.mono behind) fun _ h => h).map fun _ => ?_
    exact consSegment_within (buildCall_within offset name body rest') behind
  case case8 hopen _ _ htake _ _ hlink =>
    rw [link_eq hopen htake]
    exact (scannedLink_sound _ _ _).of_error hlink
  case case9 offset _ c cs _ _ _ hopen inner rest htake stop link hlink ih =>
    rw [link_eq hopen htake]
    have behind : Fragment.PartOf ⟨stop, rest⟩
        ⟨offset, '[' :: '[' :: (inner ++ ']' :: ']' :: rest)⟩ := by
      refine ⟨'[' :: '[' :: inner ++ [']', ']'], [], by simp, ?_⟩
      rw [byteLength_link, ← Nat.add_assoc, ← Nat.add_assoc]
    have found : link.Within ⟨offset, '[' :: '[' :: (inner ++ ']' :: ']' :: rest)⟩ :=
      (scannedLink_sound _ _ _).of_ok hlink
    refine (ih.mono (fun _ h => h.mono behind) fun _ h => h).map fun _ => ?_
    exact consSegment_within found behind

/-- **What scanning finds stands in the text**, segments and flaws alike. -/
theorem scan_sound (f : Fragment) :
    Sound (·.Within f) (fun segments => ∀ segment ∈ segments, segment.Within f) (scan f) :=
  scanFrom_sound f.offset false f.chars

end Markup

end Fiction
