import Fiction.Proofs.Expr.Behind

/-!
# Fiction.Proofs.Expr.Alone

**A token is the same by itself.** The lexer looks at what follows a token to see where the token ends. If
nothing follows, it ends at the same place.

There is one lemma for each of the lexer's readers: it takes a piece from the front of a text, and it takes
all of that piece when it is given nothing else. `next_alone` puts them together.
-/

namespace Fiction

/-! ## Characters of words -/

namespace Text

theorem isAlphanumeric_of_isPlain {c : Char} (h : isPlain c = true) :
    (isAlphanumeric c || c = '_') = true := by
  rw [isPlain, Bool.or_eq_true] at h
  rcases h with known | line
  · have ascii : c.toNat < 128 := by
      change ((decide (65 ≤ c.val ∧ c.val ≤ 90) || 97 ≤ c.val && c.val ≤ 122) ||
        48 ≤ c.val && c.val ≤ 57) = true at known
      simp only [Bool.or_eq_true, Bool.and_eq_true, decide_eq_true_eq, UInt32.le_iff_toNat_le] at known
      change (65 ≤ c.toNat ∧ c.toNat ≤ 90 ∨ 97 ≤ c.toNat ∧ c.toNat ≤ 122) ∨
        48 ≤ c.toNat ∧ c.toNat ≤ 57 at known
      omega
    rw [Char.isAlphanum] at known
    rw [isAlphanumeric, isLetter, isNumeral, if_pos ascii, if_pos ascii, known, Bool.true_or]
  · rw [line, Bool.or_true]

theorem isPlain_of_isPlainStart {c : Char} (h : isPlainStart c = true) : isPlain c = true := by
  rw [isPlainStart, Bool.or_eq_true] at h
  rw [isPlain, Char.isAlphanum]
  rcases h with letter | line
  · rw [letter]
    rfl
  · rw [line, Bool.or_true]

end Text

namespace Lexer

open Markup (callName? takeCall buildCall)

variable {offset : Nat} {c : Char} {cs rest : List Char}

/-! ## Numbers -/

/-- A sign in front of digits. -/
theorem sign_alone (h : (sign cs).2.takeWhile Char.isDigit ≠ []) :
    ∃ front, cs = front ++ (sign cs).2 ∧ sign (front ++ (sign cs).2.takeWhile Char.isDigit) =
      ((sign cs).1, (sign cs).2.takeWhile Char.isDigit) := by
  revert h
  fun_cases sign cs
  case case1 after => exact fun _ => ⟨['+'], rfl, rfl⟩
  case case2 after => exact fun _ => ⟨['-'], rfl, rfl⟩
  case case3 plus minus =>
    intro h
    obtain ⟨d, ds, digits⟩ := List.exists_cons_of_ne_nil h
    have first : d ∈ cs.takeWhile Char.isDigit := digits ▸ List.mem_cons_self
    have digit : d.isDigit = true := List.mem_takeWhile_imp first
    refine ⟨[], rfl, ?_⟩
    rw [List.nil_append, digits, sign]
    · rintro rest ⟨⟩
      cases digit
    · rintro rest ⟨⟩
      cases digit

theorem exponent?_alone {e : Int} (h : exponent? cs = some (e, rest)) :
    ∃ letter text, cs = letter :: text ++ rest ∧ (letter = 'e' ∨ letter = 'E') ∧
      exponent? (letter :: text) = some (e, []) := by
  cases cs with
  | nil => cases h
  | cons letter cs =>
      rw [exponent?_cons] at h
      split at h
      · next isLetter =>
          split at h
          · cases h
          · next digits =>
              have some : (sign cs).2.takeWhile Char.isDigit ≠ [] := by
                simpa [List.isEmpty_iff] using digits
              obtain ⟨front, text, alone⟩ := sign_alone some
              have all : ∀ d ∈ (sign cs).2.takeWhile Char.isDigit, d.isDigit = true :=
                fun d hd => List.mem_takeWhile_imp hd
              obtain ⟨taken, dropped⟩ := Decimal.takeWhile_isDigit_append all [] nofun
              rw [List.append_nil] at taken dropped
              cases h
              refine ⟨letter, front ++ (sign cs).2.takeWhile Char.isDigit, ?_, by simpa using isLetter, ?_⟩
              · rw [List.cons_append, List.append_assoc, List.takeWhile_append_dropWhile, ← text]
              · rw [exponent?_cons, alone, if_pos isLetter]
                dsimp only
                rw [taken, dropped, if_neg digits]
      · cases h

/-- The letter of an exponent belongs to neither the digits nor the fraction in front of it. -/
theorem isDigit_of_exponent (h : c = 'e' ∨ c = 'E') : c.isDigit = false ∧ c ≠ '.' := by
  rcases h with rfl | rfl <;> decide

theorem fraction?_of_ne (h : c ≠ '.') : fraction? (c :: cs) = none := by
  rw [fraction?]
  rintro rest ⟨⟩
  exact h rfl

/-- The digits of a fraction. -/
theorem fraction?_alone {ds : List Char} (h : fraction? cs = some (ds, rest)) :
    cs = '.' :: ds ++ rest ∧ ∀ more, (∀ d ∈ more.head?, d.isDigit = false) →
      fraction? ('.' :: ds ++ more) = some (ds, more) := by
  unfold fraction? at h
  split at h
  · dsimp only at h
    split at h
    · cases h
    · next after digits =>
        cases h
        refine ⟨by rw [List.cons_append, List.takeWhile_append_dropWhile], fun more hmore => ?_⟩
        obtain ⟨taken, dropped⟩ := Decimal.takeWhile_isDigit_append (fun d hd => List.mem_takeWhile_imp hd) more hmore
        rw [List.cons_append, fraction?, taken, dropped, if_neg digits]
  · cases h

/-- A number is all of its digits, its fraction and its exponent. -/
theorem number_alone {token : Token} (h : number offset cs = .ok (token, rest)) :
    ∃ text, cs = text ++ rest ∧ number offset text = .ok (token, []) := by
  have digits : ∀ d ∈ cs.takeWhile Char.isDigit, d.isDigit = true :=
    fun d hd => List.mem_takeWhile_imp hd
  have whole : cs.takeWhile Char.isDigit ++ cs.dropWhile Char.isDigit = cs :=
    List.takeWhile_append_dropWhile
  unfold number at h
  dsimp only at h
  cases hf : fraction? (cs.dropWhile Char.isDigit) with
  | none =>
      rw [hf] at h
      dsimp only at h
      cases hx : exponent? (cs.dropWhile Char.isDigit) with
      | none =>
          rw [hx] at h
          dsimp only at h
          rw [if_neg Bool.false_ne_true] at h
          split at h
          · next n fits =>
              cases h
              obtain ⟨taken, dropped⟩ := Decimal.takeWhile_isDigit_append digits [] nofun
              refine ⟨cs.takeWhile Char.isDigit ++ [], by rw [List.append_nil, whole], ?_⟩
              unfold number
              rw [taken, dropped]
              dsimp only [fraction?, exponent?]
              rw [if_neg Bool.false_ne_true, fits]
          · cases h
      | some found =>
          obtain ⟨e, after⟩ := found
          rw [hx] at h
          cases h
          obtain ⟨first, text, split, letter, alone⟩ := exponent?_alone hx
          obtain ⟨taken, dropped⟩ := Decimal.takeWhile_isDigit_append digits (first :: text) (by
            rintro _ ⟨⟩
            exact (isDigit_of_exponent letter).1)
          refine ⟨cs.takeWhile Char.isDigit ++ first :: text, ?_, ?_⟩
          · rw [List.append_assoc, ← split, whole]
          · unfold number
            rw [taken, dropped]
            dsimp only
            rw [fraction?_of_ne (isDigit_of_exponent letter).2]
            dsimp only
            rw [alone]
            rfl
  | some found =>
      obtain ⟨ds, middle⟩ := found
      rw [hf] at h
      dsimp only at h
      obtain ⟨split, fraction⟩ := fraction?_alone hf
      cases hx : exponent? middle with
      | none =>
          rw [hx] at h
          cases h
          obtain ⟨taken, dropped⟩ := Decimal.takeWhile_isDigit_append digits ('.' :: ds ++ []) (by
            rintro _ ⟨⟩
            rfl)
          refine ⟨cs.takeWhile Char.isDigit ++ ('.' :: ds ++ []), ?_, ?_⟩
          · rw [List.append_nil, List.append_assoc, ← split, whole]
          · unfold number
            rw [taken, dropped]
            dsimp only
            rw [fraction [] nofun]
            rfl
      | some found =>
          obtain ⟨e, after⟩ := found
          rw [hx] at h
          cases h
          obtain ⟨first, text, split', letter, alone⟩ := exponent?_alone hx
          obtain ⟨taken, dropped⟩ := Decimal.takeWhile_isDigit_append digits ('.' :: ds ++ first :: text) (by
            rintro _ ⟨⟩
            rfl)
          have more : fraction? ('.' :: ds ++ first :: text) = some (ds, first :: text) :=
            fraction _ (by
              rintro _ ⟨⟩
              exact (isDigit_of_exponent letter).1)
          refine ⟨cs.takeWhile Char.isDigit ++ ('.' :: ds ++ first :: text), ?_, ?_⟩
          · rw [List.append_assoc, List.append_assoc, ← split', ← split, whole]
          · unfold number
            rw [taken, dropped]
            dsimp only
            rw [more]
            dsimp only
            rw [alone]
            rfl

/-! ## Texts and words -/

theorem quoted?_alone {text : List Char} (h : quoted? cs = some (text, rest)) :
    ∃ piece, cs = piece ++ rest ∧ quoted? piece = some (text, []) := by
  obtain ⟨inner, quoted, rfl⟩ := exists_quoted h
  exact ⟨inner ++ ['"'], by simp, quoted.read []⟩

/-- A character that keeps a hyphen or a dot in front of it in a word is in the word too. -/
theorem continues_of_isPlain (h : Text.isPlain c = true) (cs : List Char) : continues c cs = true := by
  unfold continues
  rw [Text.isAlphanumeric_of_isPlain h, Bool.true_or]

theorem takeWord_alone (cs : List Char) : cs = (takeWord cs).1 ++ (takeWord cs).2 ∧
    takeWord (takeWord cs).1 = ((takeWord cs).1, []) := by
  induction cs with
  | nil => exact ⟨rfl, rfl⟩
  | cons c cs ih =>
      rw [takeWord]
      split
      · next goesOn =>
          refine ⟨congrArg (c :: ·) ih.1, ?_⟩
          have kept : continues c (takeWord cs).1 = true := by
            rcases continues_iff.mp goesOn with itself | ⟨d, rest, rfl, next⟩
            · exact continues_iff.mpr (.inl itself)
            · have plain : Text.isPlain d = true := by
                rcases Bool.or_eq_true_iff.mp next with hyphen | dot
                · exact Text.isPlain_of_isPlainStart (Bool.and_eq_true_iff.mp hyphen).2
                · exact (Bool.and_eq_true_iff.mp dot).2
              rw [takeWord, if_pos (continues_of_isPlain plain rest)]
              exact continues_iff.mpr (.inr ⟨d, _, rfl, next⟩)
          dsimp only
          rw [takeWord, if_pos kept, ih.2]
      · exact ⟨rfl, rfl⟩

/-! ## Tokens -/

theorem operator?_alone {op : Operator} (h : operator? (c :: cs) = some (op, rest)) :
    ∃ text, cs = text ++ rest ∧ operator? (c :: text) = some (op, []) := by
  unfold operator? at h
  split at h
  iterate 8
    · next found =>
        cases found
        cases h
        exact ⟨[_], rfl, rfl⟩
  iterate 12
    · next found =>
        cases found
        cases h
        exact ⟨[], rfl, rfl⟩
  · cases h

theorem operator?_of_mark {mark : Mark} (h : Mark.ofChar? c = some mark) : operator? [c] = none := by
  rw [Mark.char_of_ofChar? h]
  cases mark <;> rfl

/-- A piece from the front of a text has the first character if what is left is shorter. -/
theorem exists_cons_of_suffix {text : List Char} (h : c :: cs = text ++ rest) (shorter : rest <:+ cs) :
    ∃ more, text = c :: more ∧ cs = more ++ rest := by
  cases text with
  | nil =>
      have length := shorter.length_le
      rw [← List.nil_append rest, ← h, List.length_cons] at length
      omega
  | cons d more =>
      obtain ⟨rfl, tail⟩ := List.cons.inj h
      exact ⟨more, rfl, tail⟩

theorem plainToken_alone {token : Token} (h : plainToken offset c cs = .ok (token, rest)) :
    ∃ text, cs = text ++ rest ∧ plainToken offset c text = .ok (token, []) := by
  unfold plainToken at h ⊢
  split at h
  · next digit =>
      obtain ⟨text, split, alone⟩ := number_alone h
      have shorter : rest <:+ cs := ((number_plain digit cs).of_ok h).2
      obtain ⟨more, rfl, tail⟩ := exists_cons_of_suffix split shorter
      exact ⟨more, tail, by rw [if_pos digit, alone]⟩
  next digit =>
  simp only [if_neg digit]
  split at h
  · next quote =>
      split at h
      · next text left read =>
          cases h
          obtain ⟨piece, split, alone⟩ := quoted?_alone read
          exact ⟨piece, split, by rw [if_pos quote, alone]⟩
      · cases h
  next quote =>
  simp only [if_neg quote]
  split at h
  · next letter =>
      have same : (wordToken (takeWord (c :: cs)).1, (takeWord (c :: cs)).2) = (token, rest) :=
        Except.ok.inj h
      obtain ⟨rfl, rfl⟩ := Prod.mk.inj same
      obtain ⟨split, alone⟩ := takeWord_alone (c :: cs)
      obtain ⟨more, word, tail⟩ := exists_cons_of_suffix split (takeWord_cons_suffix letter cs)
      refine ⟨more, tail, ?_⟩
      rw [if_pos letter, ← word, alone]
  next letter =>
  simp only [if_neg letter]
  split at h
  · next slash =>
      split at h
      · cases h
        exact ⟨['~'], rfl, if_pos slash⟩
      · cases h
        exact ⟨[':'], rfl, if_pos slash⟩
      · cases h
  next slash =>
  simp only [if_neg slash]
  split at h
  · next binding =>
      cases h
      exact ⟨[], rfl, by rw [if_pos binding]⟩
  next binding =>
  simp only [if_neg binding]
  split at h
  · next read =>
      cases h
      obtain ⟨text, split, alone⟩ := operator?_alone read
      exact ⟨text, split, by rw [alone]⟩
  · split at h
    · next mark known =>
        cases h
        exact ⟨[], rfl, by rw [operator?_of_mark known]⟩
    · cases h

/-- **A token is the same by itself.** -/
theorem next_alone {token : Token} (h : next offset c cs = .ok (token, rest)) :
    ∃ text, cs = text ++ rest ∧ next offset c text = .ok (token, []) := by
  rcases next_cases h with ⟨noCall, h⟩ | ⟨rfl, name, after, body, hname, hbody, rfl⟩
  · -- without what follows no call starts there either
    obtain ⟨text, split, alone⟩ := plainToken_alone h
    refine ⟨text, split, ?_⟩
    have stillNoCall : NoCall c text := by
      intro paren
      cases hname : callName? text with
      | none => rfl
      | some named =>
          have longer := noCall paren
          rw [split, Markup.callName?_append hname rest] at longer
          cases longer
    rw [next_of_noCall stillNoCall, alone]
  · obtain ⟨isName, rfl⟩ := Markup.callName?_eq_some_iff.mp hname
    refine ⟨name ++ '~' :: (body ++ [')']), ?_, ?_⟩
    · rw [Markup.takeCall_eq hbody]
      simp
    · exact next_of_closed offset (Markup.callName?_eq_some_iff.mpr ⟨isName, rfl⟩)
        (Markup.takeCall_exchange hbody [])

end Lexer

end Fiction
