import Fiction.Proofs.Markup.Shift
import Mathlib.Data.List.Chain

/-!
# Fiction.Proofs.Markup.Lossless

**Scanning loses nothing and looks at nothing else.** The segments of a text stand one behind the
other and make up the text, each is written the way its kind is written, and each of them, scanned
alone and at any position, is found again.

* `Fragment.Tile` and `Fragment.Joined` are fragments that make up a text, without and with a
  separator between them.
* `Segment.Written` says how a segment is written, with the positions of all its parts.
* `FoundAlone` is a segment that is found again alone. What is found at one position is found at any,
  by `scan_shift`.
* `Cut` is what the scanner does to a text, and `scanFrom_cut` is the induction.
-/

namespace Fiction

/-! ## Fragments that make up a text -/

namespace Fragment

/-- Fragments that follow each other directly, none of them empty, and make up the text from a
position on. -/
inductive Tile : Nat → List Char → List Fragment → Prop
  | nil (offset : Nat) : Tile offset [] []
  | cons {offset : Nat} {piece rest : List Char} {tiles : List Fragment} : piece ≠ [] →
      Tile (offset + Text.byteLength piece) rest tiles →
      Tile offset (piece ++ rest) (⟨offset, piece⟩ :: tiles)

/-- Fragments that make up the text from a position on, with a separator between each two of them. -/
inductive Joined (separator : Char) : Nat → List Char → List Fragment → Prop
  | last (offset : Nat) (piece : List Char) : Joined separator offset piece [⟨offset, piece⟩]
  | cons {offset : Nat} {piece rest : List Char} {parts : List Fragment} :
      Joined separator (offset + Text.byteLength piece + separator.utf8Size) rest parts →
      Joined separator offset (piece ++ separator :: rest) (⟨offset, piece⟩ :: parts)

/-- Pieces that are placed with a separator between them make up the joined text. -/
theorem place_joined (separator : Char) (offset : Nat) {pieces : List (List Char)}
    (h : pieces ≠ []) :
    Joined separator offset (Text.join [separator] pieces) (place separator offset pieces) := by
  induction pieces generalizing offset with
  | nil => exact absurd rfl h
  | cons piece rest ih =>
      cases rest with
      | nil => exact .last offset piece
      | cons next rest =>
          rw [Text.join, List.append_assoc, List.singleton_append]
          · exact .cons (ih _ (List.cons_ne_nil _ _))
          · exact List.cons_ne_nil _ _

/-- **The parts between the delimiters outside of everything make up the text.** -/
theorem splitTop_joined (b : Bracketing) (delimiter : Char) (f : Fragment) :
    Joined delimiter f.offset f.chars (f.splitTop b delimiter) := by
  have joined := place_joined delimiter f.offset (b.splitTop_ne_nil delimiter .top f.chars)
  rwa [b.join_splitTop] at joined

/-- What is behind a piece that a fragment starts with. -/
theorem drop_of_eq_append {f : Fragment} {piece rest : List Char} (h : f.chars = piece ++ rest) :
    f.drop piece.length = ⟨f.offset + Text.byteLength piece, rest⟩ := by
  rw [drop, h, List.take_left, List.drop_left]

end Fragment

/-! ## How segments are written -/

/-- The arguments of a call as they are written from a position on, tildes between them. Where there
are none, there are only blanks. -/
def ArgumentsWritten (offset : Nat) (cs : List Char) (args : List Fragment) : Prop :=
  if Text.isEmptyText cs then args = [] else Fragment.Joined '~' offset cs args

/-- What stands in front of the arguments: nothing, or blanks and one more tilde. If there could be
one, there is. -/
def IsLead (lead inner : List Char) : Prop :=
  (lead = [] ∧ (inner.dropWhile Text.isBlank).head? ≠ some '~') ∨
    ∃ blanks, Text.isEmptyText blanks = true ∧ lead = blanks ++ ['~']

/-- A call as it is written: a parenthesis, the name and a tilde, what may stand in front of the
arguments, the arguments and a parenthesis. -/
structure Call.Written (c : Call) (f : Fragment) : Prop where
  source : c.source = f
  parts : ∃ lead inner, IsLead lead inner ∧
    f.chars = '(' :: c.name.toList ++ '~' :: lead ++ inner ++ [')'] ∧
    ArgumentsWritten (f.offset + Text.byteLength ('(' :: c.name.toList ++ '~' :: lead)) inner c.args

/-- The parts of a link: a label that is also the target, or both, or both and what happens on the
way. -/
inductive LinkText.Parts (l : LinkText) : List Fragment → Prop
  | one : l.target = l.label → l.traversal = none → Parts l [l.label]
  | two : l.traversal = none → Parts l [l.label, l.target]
  | three {traversal : Fragment} : l.traversal = some traversal →
      Parts l [l.label, l.target, traversal]

/-- A link as it is written: its parts, bars between them, in two brackets on each side. -/
structure LinkText.Written (l : LinkText) (f : Fragment) : Prop where
  span : l.span = f.span
  parts : ∃ inner parts, f.chars = '[' :: '[' :: inner ++ [']', ']'] ∧
    Fragment.Joined '|' (f.offset + 2) inner parts ∧ l.Parts parts

/-- A segment as it is written. -/
def Segment.Written (f : Fragment) : Segment → Prop
  | .text t => t = f
  | .call c => c.Written f
  | .link l => l.Written f

/-- Segments of plain text. -/
def Segment.isText : Segment → Bool
  | .text _ => true
  | .call _ | .link _ => false

namespace Markup

theorem arguments_written (body : Fragment) : ∃ lead inner, IsLead lead inner ∧
    body.chars = lead ++ inner ∧
    ArgumentsWritten (body.offset + Text.byteLength lead) inner (arguments body) := by
  have written (f : Fragment) : ArgumentsWritten f.offset f.chars
      (if f.isBlank then [] else f.splitTop .argument '~') := by
    unfold ArgumentsWritten Fragment.isBlank
    split
    · rfl
    · exact f.splitTop_joined .argument '~'
  have whole := List.takeWhile_append_dropWhile (p := Text.isBlank) (l := body.chars)
  unfold arguments
  dsimp only
  split
  · next tail htail =>
      have text : body.chars = body.chars.takeWhile Text.isBlank ++ ['~'] ++ tail := by
        rw [List.append_assoc, List.singleton_append, ← htail, whole]
      have behind : body.drop ((body.chars.takeWhile Text.isBlank).length + 1) =
          ⟨body.offset + Text.byteLength (body.chars.takeWhile Text.isBlank ++ ['~']), tail⟩ := by
        have length : (body.chars.takeWhile Text.isBlank).length + 1 =
            (body.chars.takeWhile Text.isBlank ++ ['~']).length := by simp
        rw [length]
        exact Fragment.drop_of_eq_append text
      rw [behind]
      exact ⟨_, tail, .inr ⟨_, List.all_takeWhile, rfl⟩, text, written ⟨_, tail⟩⟩
  · next other =>
      refine ⟨[], body.chars, .inl ⟨rfl, fun tilde => ?_⟩, rfl, written body⟩
      obtain ⟨tail, htail⟩ := List.head?_eq_some_iff.mp tilde
      exact other tail htail

theorem buildCall_written (offset : Nat) (name body : List Char) :
    (buildCall offset '(' name body).Written
      ⟨offset, '(' :: name ++ '~' :: body ++ [')']⟩ := by
  obtain ⟨lead, inner, hlead, hbody, hargs⟩ :=
    arguments_written ⟨offset + '('.utf8Size + Text.byteLength name + 1, body⟩
  have position : offset + '('.utf8Size + Text.byteLength name + 1 + Text.byteLength lead =
      offset + Text.byteLength ('(' :: name ++ '~' :: lead) := by
    simp [show '~'.utf8Size = 1 by decide]
    omega
  dsimp only at hbody hargs
  refine ⟨rfl, lead, inner, hlead, ?_, ?_⟩
  · simp [buildCall, hbody]
  · rw [position] at hargs
    simpa only [buildCall, String.toList_ofList] using hargs

theorem buildLink_written {offset stop : Nat} {inner : List Char} {l : LinkText}
    (hstop : stop = offset + 2 + Text.byteLength inner + 2)
    (h : buildLink ⟨offset, stop⟩ ⟨offset + 2, inner⟩ = .ok l) :
    l.Written ⟨offset, '[' :: '[' :: inner ++ [']', ']']⟩ := by
  have joined := Fragment.splitTop_joined .link '|' ⟨offset + 2, inner⟩
  have whole : (⟨offset, stop⟩ : Span) =
      (⟨offset, '[' :: '[' :: inner ++ [']', ']']⟩ : Fragment).span := by
    rw [Fragment.span, Fragment.stop, byteLength_link, hstop, ← Nat.add_assoc, ← Nat.add_assoc]
  have built {label target : Fragment} {traversal : Option Fragment} {parts : List Fragment}
      (hparts : Fragment.splitTop .link '|' ⟨offset + 2, inner⟩ = parts)
      (hl : (if target.isBlank then .error (.of (.malformedLink .noTarget) ⟨offset, stop⟩)
        else .ok ⟨label, target, traversal, ⟨offset, stop⟩⟩ : Except Flaw LinkText) = .ok l)
      (hkind : (⟨label, target, traversal, ⟨offset, stop⟩⟩ : LinkText).Parts parts) :
      l.Written ⟨offset, '[' :: '[' :: inner ++ [']', ']']⟩ := by
    split at hl
    · cases hl
    · cases hl
      exact ⟨whole, inner, parts, rfl, hparts ▸ joined, hkind⟩
  unfold buildLink at h
  dsimp only at h
  split at h
  · next hp => exact built hp h (.one rfl rfl)
  · next hp => exact built hp h (.two rfl)
  · next hp => exact built hp h (.three rfl)
  · cases h

end Markup

/-! ## Positions -/

/-- A fragment of a text that has moved. -/
def Fragment.move (source target : Nat) (f : Fragment) : Fragment :=
  ⟨f.offset - source + target, f.chars⟩

/-- A segment of a text that has moved. -/
def Segment.move (source target : Nat) : Segment → Segment
  | .text f => .text (f.move source target)
  | .call c => .call ⟨c.name, c.args.map (·.move source target), c.source.move source target⟩
  | .link l => .link ⟨l.label.move source target, l.target.move source target,
      l.traversal.map (·.move source target),
      ⟨l.span.start - source + target, l.span.stop - source + target⟩⟩

theorem Fragment.move_shift (source target : Nat) (f : Fragment) :
    (f.shift source).move source target = f.shift target := by
  rw [shift, move, Nat.add_sub_cancel_left, Nat.add_comm]
  rfl

theorem Fragment.move_start (source target : Nat) (cs : List Char) :
    move source target ⟨source, cs⟩ = ⟨target, cs⟩ :=
  move_shift source target ⟨0, cs⟩

theorem Segment.move_shift (source target : Nat) (segment : Segment) :
    (segment.shift source).move source target = segment.shift target := by
  cases segment with
  | text f => rw [shift, move, Fragment.move_shift, shift]
  | call c =>
      simp only [shift, move, Call.shift, Fragment.move_shift, List.map_map, Function.comp_def]
  | link l =>
      have position (n : Nat) : source + n - source + target = target + n := by omega
      simp only [shift, move, LinkText.shift, Span.shift, Fragment.move_shift, Option.map_map,
        Function.comp_def, position]

namespace Markup

/-! ## The whole text -/

/-- A source that, scanned alone, gives one segment, and gives it at any position. -/
structure FoundAlone (segment : Segment) (source : Fragment) : Prop where
  here : scan source = .ok [segment]
  anywhere : ∀ target, scan ⟨target, source.chars⟩ = .ok [segment.move source.offset target]

/-- What is found alone at its position is found alone at any position. -/
theorem FoundAlone.of_here {segment : Segment} {source : Fragment} (h : scan source = .ok [segment]) :
    FoundAlone segment source := by
  refine ⟨h, fun target => ?_⟩
  have here : scan source = _ := scan_shift source.offset ⟨0, source.chars⟩
  have there : scan ⟨target, source.chars⟩ = _ := scan_shift target ⟨0, source.chars⟩
  rw [there]
  rw [h] at here
  cases hbase : scan ⟨0, source.chars⟩ with
  | error flaw =>
      rw [hbase] at here
      cases here
  | ok base =>
      rw [hbase] at here
      obtain ⟨found, rfl, rfl⟩ := List.map_eq_singleton_iff.mp (Except.ok.inj here).symm
      rw [Segment.move_shift]
      rfl

/-- A text from a position on, cut into segments. `escaped` tells that a backslash stands in front of
the text; then the first piece is plain text with this backslash in front of it. -/
inductive Cut : Bool → Nat → List Char → List Segment → Prop
  | nil (escaped : Bool) (offset : Nat) : Cut escaped offset [] []
  | text {escaped : Bool} {offset : Nat} {piece rest : List Char} {segments : List Segment} :
      piece ≠ [] → (∀ target, scanFrom target escaped piece = .ok [.text ⟨target, piece⟩]) →
      (∀ other ∈ segments.head?, other.isText = false) →
      Cut false (offset + Text.byteLength piece) rest segments →
      Cut escaped offset (piece ++ rest) (.text ⟨offset, piece⟩ :: segments)
  | other {offset : Nat} {piece rest : List Char} {segment : Segment} {segments : List Segment} :
      piece ≠ [] → segment.isText = false → segment.Written ⟨offset, piece⟩ →
      FoundAlone segment ⟨offset, piece⟩ →
      Cut false (offset + Text.byteLength piece) rest segments →
      Cut false offset (piece ++ rest) (segment :: segments)

/-- A piece of plain text, from its first character. -/
theorem Cut.textCons {escaped : Bool} {offset : Nat} {c : Char} {piece rest : List Char}
    {segments : List Segment}
    (hplain : ∀ target, scanFrom target escaped (c :: piece) = .ok [.text ⟨target, c :: piece⟩])
    (hnext : ∀ other ∈ segments.head?, other.isText = false)
    (h : Cut false (offset + c.utf8Size + Text.byteLength piece) rest segments) :
    Cut escaped offset (c :: (piece ++ rest)) (.text ⟨offset, c :: piece⟩ :: segments) := by
  rw [Nat.add_assoc, ← Text.byteLength_cons] at h
  rw [← List.cons_append]
  exact .text (List.cons_ne_nil _ _) hplain hnext h

/-- Plain text in front of a text that is cut is a piece of its own, or goes with the text it is in
front of. -/
theorem Cut.consText {escaped : Bool} {offset : Nat} {c : Char} {cs : List Char}
    {segments : List Segment} (hc : IsPlainAt escaped c cs)
    (h : Cut (!escaped && c = '\\') (offset + c.utf8Size) cs segments) :
    Cut escaped offset (c :: cs) (consText offset c segments) := by
  have single (target : Nat) : scanFrom target escaped [c] = .ok [.text ⟨target, [c]⟩] := by
    have plain : IsPlainAt escaped c [] := IsPlainAt.cut hc
    rw [scanFrom_plain plain, scanFrom]
    rfl
  generalize hflag : (!escaped && decide (c = '\\')) = flag at h
  cases h with
  | nil => exact .textCons single (by simp) (.nil _ _)
  | @text _ _ piece rest segments hne hplain hnext tail =>
      have longer (target : Nat) :
          scanFrom target escaped (c :: piece) = .ok [.text ⟨target, c :: piece⟩] := by
        rw [scanFrom_plain hc.cut, hflag, hplain]
        rfl
      exact .textCons longer hnext tail
  | @other _ piece rest segment segments hne hkind hwritten hfound tail =>
      have front : Markup.consText offset c (segment :: segments) =
          .text ⟨offset, [c]⟩ :: segment :: segments := by
        cases segment with
        | text f => cases hkind
        | call _ => rfl
        | link _ => rfl
      rw [front]
      refine .textCons single ?_ (.other hne hkind hwritten hfound tail)
      rintro _ ⟨⟩
      exact hkind

theorem buildCall_foundAlone (offset : Nat) {name after body rest : List Char}
    (hname : IsCallName name) (hbody : takeCall ⟨1, false, false⟩ after = some (body, rest)) :
    FoundAlone (.call (buildCall offset '(' name body))
      ⟨offset, '(' :: name ++ '~' :: body ++ [')']⟩ := by
  have text : '(' :: name ++ '~' :: body ++ [')'] = '(' :: (name ++ '~' :: (body ++ [')'])) := by
    simp
  refine .of_here ?_
  rw [scan, text, scanFrom_call (callName?_eq_some_iff.mpr ⟨hname, rfl⟩)
    (takeCall_exchange hbody []), scanFrom]
  rfl

theorem buildLink_foundAlone {offset : Nat} {cs inner rest : List Char} {l : LinkText}
    (hinner : takeLink .top cs = some (inner, rest))
    (hlink : buildLink ⟨offset, offset + 2 + Text.byteLength inner + 2⟩ ⟨offset + 2, inner⟩ = .ok l) :
    FoundAlone (.link l) ⟨offset, '[' :: '[' :: inner ++ [']', ']']⟩ := by
  have text : '[' :: '[' :: inner ++ [']', ']'] = '[' :: '[' :: (inner ++ ']' :: ']' :: []) := rfl
  refine .of_here ?_
  rw [scan, text, scanFrom_link (takeLink_exchange hinner []), hlink, scanFrom]
  rfl

/-- **The scanner cuts the text.** -/
theorem scanFrom_cut {offset : Nat} {escaped : Bool} {cs : List Char} {segments : List Segment}
    (h : scanFrom offset escaped cs = .ok segments) : Cut escaped offset cs segments := by
  fun_induction scanFrom offset escaped cs generalizing segments
  case case1 =>
    cases h
    exact .nil _ _
  -- something is not closed
  case case5 | case7 | case8 => cases h
  -- the character is plain text
  case case2 offset c cs next ih =>
    obtain ⟨tail, htail, rfl⟩ := Outcome.map_eq_ok.mp h
    exact Cut.consText (.inl rfl) (ih htail)
  case case3 offset escaped cs unescaped next ih =>
    obtain ⟨tail, htail, rfl⟩ := Outcome.map_eq_ok.mp h
    simp only [Bool.not_eq_true] at unescaped
    subst unescaped
    exact Cut.consText (.inr (.inl rfl)) (ih htail)
  case case4 offset escaped cs unescaped hname next _ ih =>
    obtain ⟨tail, htail, rfl⟩ := Outcome.map_eq_ok.mp h
    simp only [Bool.not_eq_true] at unescaped
    subst unescaped
    exact Cut.consText (.inr (.inr ⟨fun _ => hname, by simp⟩)) (ih htail)
  case case10 offset escaped c cs next unescaped hslash hopen hlink ih =>
    obtain ⟨tail, htail, rfl⟩ := Outcome.map_eq_ok.mp h
    simp only [Bool.not_eq_true] at unescaped
    subst unescaped
    simp only [Bool.and_eq_true, decide_eq_true_eq, beq_iff_eq, not_and] at hlink
    refine Cut.consText (.inr (.inr ⟨fun ho => absurd ho hopen, hlink⟩)) ?_
    simpa [hslash] using ih htail
  case case6 offset escaped cs unescaped name after hname body rest hbody _ call ih =>
    obtain ⟨tail, htail, rfl⟩ := Outcome.map_eq_ok.mp h
    simp only [Bool.not_eq_true] at unescaped
    subst unescaped
    obtain ⟨isName, rfl⟩ := callName?_eq_some_iff.mp hname
    have text : '(' :: (name ++ '~' :: after) = ('(' :: name ++ '~' :: body ++ [')']) ++ rest := by
      rw [takeCall_eq hbody]
      simp
    rw [text]
    exact .other (by simp) rfl (buildCall_written offset name body)
      (buildCall_foundAlone offset isName hbody) (ih htail)
  case case9 offset escaped c cs unescaped hslash hopen hlink inner rest hinner stop link hbuild ih =>
    obtain ⟨tail, htail, rfl⟩ := Outcome.map_eq_ok.mp h
    simp only [Bool.not_eq_true] at unescaped
    subst unescaped
    simp only [Bool.and_eq_true, decide_eq_true_eq, beq_iff_eq] at hlink
    obtain ⟨rfl, hhead⟩ := hlink
    obtain ⟨cs, rfl⟩ := List.head?_eq_some_iff.mp hhead
    have hinner : takeLink .top cs = some (inner, rest) := hinner
    have text : '[' :: '[' :: cs = ('[' :: '[' :: inner ++ [']', ']']) ++ rest := by
      rw [takeLink_eq hinner]
      simp
    rw [text]
    refine .other (by simp) rfl (buildLink_written rfl hbuild) (buildLink_foundAlone hinner hbuild) ?_
    rw [byteLength_link, ← Nat.add_assoc, ← Nat.add_assoc]
    exact ih htail

/-- **The segments of a text make it up, and each is found again alone.** The sources of the segments,
one behind the other, are the text, with no gap, no overlap and none of them empty; no plain text is
next to plain text; each segment is written as its kind is written, with all positions counted from
the start of the text; and each source, scanned alone, is that one segment, at any position. -/
theorem scan_lossless_and_local {f : Fragment} {segments : List Segment}
    (h : scan f = .ok segments) :
    ∃ sources, Fragment.Tile f.offset f.chars sources ∧
      List.Forall₂ (fun segment source => segment.Written source ∧ FoundAlone segment source)
        segments sources ∧
      segments.IsChain fun a b => ¬ (a.isText = true ∧ b.isText = true) := by
  have cut : Cut false f.offset f.chars segments := scanFrom_cut h
  generalize f.offset = offset, f.chars = cs, hescaped : false = escaped at cut
  clear h
  induction cut with
  | nil => exact ⟨[], .nil _, .nil, .nil⟩
  | @text _ offset piece rest segments hne hplain hnext tail ih =>
      subst hescaped
      obtain ⟨sources, tiles, found, chain⟩ := ih rfl
      refine ⟨⟨offset, piece⟩ :: sources, .cons hne tiles, .cons ⟨rfl, hplain offset, ?_⟩ found, ?_⟩
      · intro target
        rw [Segment.move, Fragment.move_start]
        exact hplain target
      · refine chain.cons fun other ho => ?_
        simp [hnext other ho]
  | @other offset piece rest segment segments hne hkind hwritten hfound tail ih =>
      obtain ⟨sources, tiles, found, chain⟩ := ih rfl
      refine ⟨⟨offset, piece⟩ :: sources, .cons hne tiles, .cons ⟨hwritten, hfound⟩ found, ?_⟩
      refine chain.cons fun other _ => ?_
      simp [hkind]

/-- A text with letters of two bytes, an escape, a link, and a call with a tilde too many and a
quoted parenthesis. -/
def greeting : Fragment :=
  ⟨5, "Grüße \\(x~ [[on|(hall~)|(set~ x ~ 1)]](if~ ~ a ~ \"~)\")".toList⟩

/-- Its segments. -/
def greetingSegments : List Segment :=
  [.text ⟨5, "Grüße \\(x~ ".toList⟩,
    .link ⟨⟨20, "on".toList⟩, ⟨23, "(hall~)".toList⟩, some ⟨31, "(set~ x ~ 1)".toList⟩, ⟨18, 45⟩⟩,
    .call ⟨"if", [⟨51, " a ".toList⟩, ⟨55, " \"~)\"".toList⟩],
      ⟨45, "(if~ ~ a ~ \"~)\")".toList⟩⟩]

theorem greeting_lossless_and_local :
    scan greeting = .ok greetingSegments ∧
      ∃ sources, Fragment.Tile 5 greeting.chars sources ∧
        List.Forall₂ (fun segment source => segment.Written source ∧ FoundAlone segment source)
          greetingSegments sources := by
  have scanned : scan greeting = .ok greetingSegments := by decide +kernel
  obtain ⟨sources, tiles, found, -⟩ := scan_lossless_and_local scanned
  exact ⟨scanned, sources, tiles, found⟩

end Markup

end Fiction
