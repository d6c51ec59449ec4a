import Fiction.Proofs.Markup.Pieces
import Mathlib.Data.List.TakeWhile

/-!
# Fiction.Proofs.Markup.Extent

**Where a call or a link ends is decided by its own text.** What stands behind it may be exchanged:

* `callName?_eq_some_iff` says what the start of a call is, with no word about the body;
* `takeCall_exchange` and `takeLink_exchange` put another text behind a call or a link.

A name has no character that nests, so the end of a call is the same whether it is looked for from
behind the parenthesis or from behind the name (`takeCall_plain`).

From these come the steps of the scanner: plain text, a call or a link at the start of a text, each with
what is left to be scanned behind it.
-/

namespace Fiction

/-- The nesting behind two texts. -/
theorem Bracketing.after_append (b : Bracketing) (n : Nesting) (cs ds : List Char) :
    b.after n (cs ++ ds) = b.after (b.after n cs) ds :=
  List.foldl_append

/-- A character without a meaning for the nesting leaves it as it is. -/
theorem Bracketing.step_plain {b : Bracketing} {n : Nesting} {c : Char} (hn : n.isBare = true)
    (hc : b.isSpecial c = false) : b.step n c = n := by
  simp only [Bracketing.isSpecial, Bool.or_eq_false_iff, beq_eq_false_iff_ne] at hc
  obtain ⟨⟨⟨slash, quote⟩, opening⟩, closing⟩ := hc
  simp only [Nesting.isBare, Bool.and_eq_true, Bool.not_eq_true'] at hn
  simp only [Bracketing.step, hn.1, hn.2, slash, quote, opening, closing, Bool.false_eq_true,
    if_false]

/-- Only a bracket that closes makes the nesting less deep. -/
theorem Bracketing.depth_step_cases (b : Bracketing) (n : Nesting) (c : Char) :
    n.depth ≤ (b.step n c).depth ∨
      n.isBare = true ∧ b.closes.contains c = true ∧ (b.step n c).depth = n.depth - 1 := by
  grind [Bracketing.step, Nesting.isBare]

namespace Markup

/-! ## Names -/

/-- The name of a call: a letter or an underscore, then letters, digits, underscores, dots and
hyphens. -/
def IsCallName : List Char → Prop
  | [] => False
  | c :: cs => Text.isPlainStart c = true ∧ ∀ d ∈ cs, isNamePart d = true

instance : DecidablePred IsCallName
  | [] => inferInstanceAs (Decidable False)
  | c :: cs => decidable_of_iff (Text.isPlainStart c && cs.all isNamePart) (by simp [IsCallName])

theorem isNamePart_of_isPlainStart {c : Char} (h : Text.isPlainStart c = true) :
    isNamePart c = true := by
  simp only [Text.isPlainStart, Bool.or_eq_true] at h
  simp only [isNamePart, Text.isPlain, Char.isAlphanum, Bool.or_eq_true]
  tauto

theorem IsCallName.isNamePart {name : List Char} (h : IsCallName name) :
    ∀ c ∈ name, isNamePart c = true := by
  cases name with
  | nil => exact h.elim
  | cons c cs =>
      intro d hd
      rcases List.mem_cons.mp hd with rfl | hd
      · exact isNamePart_of_isPlainStart h.1
      · exact h.2 d hd

/-- What is in front of a tilde is taken if all of it can be part of a name. -/
theorem span_namePart {front : List Char} (h : ∀ c ∈ front, isNamePart c = true)
    (body : List Char) :
    (front ++ '~' :: body).takeWhile isNamePart = front ∧
      (front ++ '~' :: body).dropWhile isNamePart = '~' :: body := by
  have tilde : isNamePart '~' = false := by decide
  rw [List.takeWhile_append_of_pos h, List.dropWhile_append_of_pos h]
  simp [tilde]

/-- **A call starts with a name and a tilde**, whatever its body is. -/
theorem callName?_eq_some_iff {cs name body : List Char} :
    callName? cs = some (name, body) ↔ IsCallName name ∧ cs = name ++ '~' :: body := by
  constructor
  · intro h
    refine ⟨?_, callName?_eq h⟩
    cases cs with
    | nil => simp [callName?] at h
    | cons c cs =>
        rw [callName?] at h
        split at h
        · next hc =>
            split at h
            · simp only [Option.some.injEq, Prod.mk.injEq] at h
              rw [← h.1]
              exact ⟨hc, fun d hd => List.mem_takeWhile_imp hd⟩
            · simp at h
        · simp at h
  · rintro ⟨hname, rfl⟩
    cases name with
    | nil => exact hname.elim
    | cons c cs =>
        obtain ⟨htake, hdrop⟩ := span_namePart hname.2 body
        rw [List.cons_append, callName?, if_pos hname.1, hdrop, htake]
        rfl

/-- A call that starts in a text starts in every text that goes on behind it. -/
theorem callName?_append {cs name body : List Char} (h : callName? cs = some (name, body))
    (ds : List Char) : callName? (cs ++ ds) = some (name, body ++ ds) := by
  obtain ⟨hname, rfl⟩ := callName?_eq_some_iff.mp h
  refine callName?_eq_some_iff.mpr ⟨hname, ?_⟩
  rw [List.append_assoc, List.cons_append]

/-! ## The end of a call -/

/-- Another text may stand behind a call. -/
theorem takeCall_exchange {n : Nesting} {cs body rest : List Char}
    (h : takeCall n cs = some (body, rest)) (other : List Char) :
    takeCall n (body ++ ')' :: other) = some (body, other) := by
  induction cs generalizing n body with
  | nil => simp [takeCall] at h
  | cons c cs ih =>
      rw [takeCall] at h
      split at h
      · next hc =>
          simp only [Bool.and_eq_true, beq_iff_eq] at hc
          simp only [Option.some.injEq, Prod.mk.injEq] at h
          rw [← h.1, List.nil_append, takeCall, if_pos]
          simp only [hc.1.1, hc.2, Bool.and_true, beq_self_eq_true]
      · next hc =>
          obtain ⟨⟨b, r⟩, hb, he⟩ := Option.map_eq_some_iff.mp h
          simp only [Prod.mk.injEq] at he
          rw [he.2] at hb
          rw [← he.1, List.cons_append, takeCall, if_neg hc, ih hb]
          rfl

/-- A text may go on behind what follows a call. -/
theorem takeCall_append {n : Nesting} {cs body rest : List Char}
    (h : takeCall n cs = some (body, rest)) (ds : List Char) :
    takeCall n (cs ++ ds) = some (body, rest ++ ds) := by
  have text : cs ++ ds = body ++ ')' :: (rest ++ ds) := by
    rw [takeCall_eq h, List.append_assoc, List.cons_append]
  rw [text]
  exact takeCall_exchange h _

/-- Characters that mean nothing for the nesting are passed over. -/
theorem takeCall_plain {n : Nesting} (hn : n.isBare = true) {front : List Char}
    (hfront : ∀ c ∈ front, Bracketing.call.isSpecial c = false) (cs : List Char) :
    takeCall n (front ++ cs) = (takeCall n cs).map fun taken => (front ++ taken.1, taken.2) := by
  induction front with
  | nil => simp
  | cons c front ih =>
      have plain : Bracketing.call.isSpecial c = false := hfront c List.mem_cons_self
      have notClosing : c ≠ ')' := by
        rintro rfl
        exact absurd plain (by decide)
      rw [List.cons_append, takeCall, if_neg (by simp [notClosing]),
        Bracketing.step_plain hn plain, ih fun d hd => hfront d (List.mem_cons_of_mem _ hd),
        Option.map_map]
      rfl

theorem isSpecial_of_isNamePart {c : Char} (h : isNamePart c = true) :
    Bracketing.call.isSpecial c = false := by
  have ne {d : Char} (hd : isNamePart d = false) : c ≠ d := by
    rintro rfl
    rw [h] at hd
    cases hd
  have slash : c ≠ '\\' := ne (by decide)
  have quote : c ≠ '"' := ne (by decide)
  have opening : c ≠ '(' := ne (by decide)
  have closing : c ≠ ')' := ne (by decide)
  simp [Bracketing.isSpecial, Bracketing.call, slash, quote, opening, closing]

/-- The end of a call is the same from behind the parenthesis as from behind the name. -/
theorem takeCall_behind_name {name : List Char} (hname : IsCallName name) (cs : List Char) :
    takeCall ⟨1, false, false⟩ (name ++ '~' :: cs) =
      (takeCall ⟨1, false, false⟩ cs).map fun taken => (name ++ '~' :: taken.1, taken.2) := by
  have front : ∀ c ∈ name ++ ['~'], Bracketing.call.isSpecial c = false := by
    intro c hc
    rcases List.mem_append.mp hc with hc | hc
    · exact isSpecial_of_isNamePart (hname.isNamePart c hc)
    · obtain rfl := List.mem_singleton.mp hc
      decide
  have passed := takeCall_plain (n := ⟨1, false, false⟩) rfl front cs
  simpa only [List.append_assoc, List.singleton_append] using passed

/-! ## The end of a link -/

/-- Another text may stand behind a link. -/
theorem takeLink_exchange {n : Nesting} {cs inner rest : List Char}
    (h : takeLink n cs = some (inner, rest)) (other : List Char) :
    takeLink n (inner ++ ']' :: ']' :: other) = some (inner, other) := by
  induction cs generalizing n inner with
  | nil => simp [takeLink] at h
  | cons c cs ih =>
      rw [takeLink] at h
      split at h
      · next hc =>
          simp only [Bool.and_eq_true, beq_iff_eq] at hc
          simp only [Option.some.injEq, Prod.mk.injEq] at h
          rw [← h.1, List.nil_append, takeLink, if_pos]
          · rfl
          · simp [hc.1.1]
      · next hc =>
          obtain ⟨⟨i, r⟩, hi, he⟩ := Option.map_eq_some_iff.mp h
          simp only [Prod.mk.injEq] at he
          rw [he.2] at hi
          -- the character behind this one is the same, as the link goes on behind it
          have same : (i ++ ']' :: ']' :: other).head? = cs.head? := by
            rw [takeLink_eq hi]
            cases i with
            | nil => rfl
            | cons d i => rfl
          rw [← he.1, List.cons_append, takeLink, same, if_neg hc, ih hi]
          rfl

/-! ## Steps of the scanner -/

/-- A character that is plain text in front of `cs`: it is escaped, or starts an escape, or opens
neither a call nor a link. -/
def IsPlainAt (escaped : Bool) (c : Char) (cs : List Char) : Prop :=
  escaped = true ∨ c = '\\' ∨
    ((c = '(' → callName? cs = none) ∧ (c = '[' → cs.head? ≠ some '['))

/-- Plain text stays plain text if what is behind it is cut off. -/
theorem IsPlainAt.cut {escaped : Bool} {c : Char} {cs ds : List Char}
    (h : IsPlainAt escaped c (cs ++ ds)) : IsPlainAt escaped c cs := by
  rcases h with h | h | ⟨hcall, hlink⟩
  · exact .inl h
  · exact .inr (.inl h)
  · refine .inr (.inr ⟨fun hc => ?_, fun hc hd => ?_⟩)
    · cases h : callName? cs with
      | none => rfl
      | some found =>
          rw [callName?_append h ds] at hcall
          exact absurd (hcall hc) (by simp)
    · refine hlink hc ?_
      rw [List.head?_append, hd]
      rfl

/-- Plain text is put in front of the segments behind it. -/
theorem scanFrom_plain {offset : Nat} {escaped : Bool} {c : Char} {cs : List Char}
    (h : IsPlainAt escaped c cs) :
    scanFrom offset escaped (c :: cs) =
      consText offset c <$> scanFrom (offset + c.utf8Size) (!escaped && c = '\\') cs := by
  rw [scanFrom]
  dsimp only
  split
  · next he => simp [he]
  · next he =>
      have unescaped : escaped = false := by simpa using he
      subst unescaped
      split
      · next hc => simp [hc]
      · next hc =>
          obtain ⟨hcall, hlink⟩ := (h.resolve_left he).resolve_left hc
          have flag : (!false && decide (c = '\\')) = false := by simp [hc]
          rw [flag]
          split
          · next ho =>
              split
              · rfl
              · next found => exact absurd (hcall ho) (by simp [found])
          · split
            · next hb =>
                simp only [Bool.and_eq_true, decide_eq_true_eq, beq_iff_eq] at hb
                exact absurd hb.2 (hlink hb.1)
            · rfl

theorem scanFrom_call {offset : Nat} {cs name after body rest : List Char}
    (hname : callName? cs = some (name, after))
    (hbody : takeCall ⟨1, false, false⟩ after = some (body, rest)) :
    scanFrom offset false ('(' :: cs) = (.call (buildCall offset '(' name body) :: ·) <$>
      scanFrom (buildCall offset '(' name body).source.stop false rest := by
  rw [scanFrom]
  simp only [Bool.false_eq_true, if_false, if_true, Char.reduceEq]
  split
  · next missing => cases missing.symm.trans hname
  · next name' after' found =>
      cases found.symm.trans hname
      split
      · next unclosed => cases unclosed.symm.trans hbody
      · next body' rest' closed =>
          cases closed.symm.trans hbody
          rfl

theorem opensLink {c : Char} {cs : List Char}
    (h : (decide (c = '[') && cs.head? == some '[') = true) : c = '[' ∧ ∃ tail, cs = '[' :: tail := by
  simp only [Bool.and_eq_true, decide_eq_true_eq, beq_iff_eq] at h
  exact ⟨h.1, List.head?_eq_some_iff.mp h.2⟩

/-- A link is taken apart, and what is behind it is scanned if that succeeds. -/
theorem scanFrom_link {offset : Nat} {cs inner rest : List Char}
    (hinner : takeLink .top cs = some (inner, rest)) :
    scanFrom offset false ('[' :: '[' :: cs) =
      buildLink ⟨offset, offset + 2 + Text.byteLength inner + 2⟩ ⟨offset + 2, inner⟩ >>= fun l =>
        (.link l :: ·) <$> scanFrom (offset + 2 + Text.byteLength inner + 2) false rest := by
  rw [scanFrom]
  simp only [Bool.false_eq_true, if_false, if_true, Char.reduceEq, List.head?_cons, decide_true,
    beq_self_eq_true, Bool.and_true]
  split
  · next unclosed => cases unclosed.symm.trans hinner
  · next inner' rest' closed =>
      cases closed.symm.trans hinner
      cases buildLink ⟨offset, offset + 2 + Text.byteLength inner + 2⟩ ⟨offset + 2, inner⟩ with
      | ok l => rfl
      | error flaw => rfl

/-- A call that is not closed is a flaw. -/
theorem scanFrom_unclosedCall {offset : Nat} {cs name after : List Char}
    (hname : callName? cs = some (name, after))
    (hbody : takeCall ⟨1, false, false⟩ after = none) :
    scanFrom offset false ('(' :: cs) =
      .error (unclosedCall (String.ofList name) offset ('(' :: cs)) := by
  rw [scanFrom]
  simp only [Bool.false_eq_true, if_false, if_true, Char.reduceEq]
  split
  · next missing => cases missing.symm.trans hname
  · next name' after' found =>
      cases found.symm.trans hname
      split
      · rfl
      · next closed => cases closed.symm.trans hbody

/-- A link that is not closed is a flaw. -/
theorem scanFrom_unclosedLink {offset : Nat} {cs : List Char} (hinner : takeLink .top cs = none) :
    scanFrom offset false ('[' :: '[' :: cs) =
      .error (.of .unterminatedLink ⟨offset, offset + Text.byteLength ('[' :: '[' :: cs)⟩) := by
  rw [scanFrom]
  simp only [Bool.false_eq_true, if_false, if_true, Char.reduceEq, List.head?_cons, decide_true,
    beq_self_eq_true, Bool.and_true]
  split
  · rfl
  · next closed => cases closed.symm.trans hinner

end Markup

end Fiction
