import Fiction.Proofs.Expr.Pieces
import Fiction.Proofs.Markup.Extent

/-!
# Fiction.Proofs.Expr.Calls

**The lexer of expressions and the scanner of markup recognise the same calls.** The scanner goes from
the name of a call to the parenthesis that closes it. The lexer first measures the call
(`Lexer.callText?`), then trims what it measured and takes it apart (`Markup.singleCall`).

* `callText?_eq_map`: both see a call start at the same places.
* `callLength_eq`: the measured text ends with the call, or is all that is left if the call is not
  closed.
* `singleCall_of_closed` and `singleCall_of_unclosed`: taking that text apart gives the call of the
  scanner, or fails for the same reason.
-/

namespace Fiction

/-! ## Blanks -/

/-- Blanks open and close no quotes. -/
theorem Bracketing.quoted_after_blanks (b : Bracketing) {blanks : List Char}
    (h : ∀ c ∈ blanks, Text.isBlank c = true) (n : Nesting) :
    (b.after n blanks).quoted = n.quoted := by
  induction blanks generalizing n with
  | nil => rfl
  | cons c blanks ih =>
      have blank : Text.isBlank c = true := h c List.mem_cons_self
      have slash : c ≠ '\\' := by
        rintro rfl
        exact absurd blank (by decide)
      have quote : c ≠ '"' := by
        rintro rfl
        exact absurd blank (by decide)
      have step : (b.step n c).quoted = n.quoted := by
        rw [Bracketing.step, if_neg slash, if_neg quote]
        split
        · rfl
        · split
          · next quoted => simp [quoted, quote]
          · split
            · rfl
            · split <;> rfl
      exact (ih (fun d hd => h d (List.mem_cons_of_mem _ hd)) _).trans step

/-! ## Where a call starts -/

namespace Lexer

open Markup (callName? takeCall isNamePart IsCallName)

/-- The lexer measures a call where the scanner sees one start. -/
theorem callText?_eq_map (cs : List Char) :
    callText? ('(' :: cs) =
      (callName? cs).map fun _ => ('(' :: cs).take (callLength .top ('(' :: cs)) := by
  cases cs with
  | nil => rfl
  | cons c cs =>
      rw [callText?, callName?, List.head?_cons]
      by_cases hc : Text.isPlainStart c = true
      · -- the first character can also be part of a name, so both look at the same tilde
        have skipped : (c :: cs).dropWhile isNamePart = cs.dropWhile isNamePart := by
          simp [Markup.isNamePart_of_isPlainStart hc]
        rw [skipped, if_pos hc]
        split
        · next first tail hfirst hd =>
            cases hfirst
            rw [if_pos hc, hd]
            rfl
        · next hd =>
            split
            · next tail ht => exact absurd ht (hd c tail rfl)
            · rfl
      · rw [if_neg hc]
        split
        · next first tail hfirst hd =>
            cases hfirst
            rw [if_neg hc]
            rfl
        · rfl

/-! ## Where a call ends -/

/-- As long as a call is not closed, its own parenthesis is open. -/
theorem one_le_depth_step {n : Nesting} {c : Char} (hn : 1 ≤ n.depth)
    (h : ¬ (n.isBare && c == ')' && decide (n.depth ≤ 1)) = true) :
    1 ≤ (Bracketing.call.step n c).depth := by
  rcases Bracketing.depth_step_cases .call n c with deeper | ⟨bare, closing, depth⟩
  · exact hn.trans deeper
  · have paren : c = ')' := by simpa [Bracketing.call] using closing
    simp only [bare, paren, beq_self_eq_true, Bool.and_true, Bool.true_and, decide_eq_true_eq] at h
    omega

/-- The lexer and the scanner find the same end. -/
theorem callLength_eq {n : Nesting} (hn : 1 ≤ n.depth) (cs : List Char) :
    callLength n cs =
      match takeCall n cs with
      | some (body, _) => body.length + 1
      | none => cs.length := by
  induction cs generalizing n with
  | nil => rfl
  | cons c cs ih =>
      have same : (n.depth == 1) = decide (n.depth ≤ 1) := by
        rw [Bool.eq_iff_iff, beq_iff_eq, decide_eq_true_eq]
        omega
      rw [callLength, takeCall, same]
      split
      · rfl
      · next ongoing =>
          rw [ih (one_le_depth_step hn ongoing)]
          cases takeCall (Bracketing.call.step n c) cs with
          | none => rfl
          | some taken => rfl

/-- The measured text of a call that is closed is the call. -/
theorem callText?_of_closed {cs name after body rest : List Char}
    (hname : callName? cs = some (name, after))
    (hbody : takeCall ⟨1, false, false⟩ after = some (body, rest)) :
    callText? ('(' :: cs) = some ('(' :: (name ++ '~' :: body) ++ [')']) := by
  obtain ⟨isName, rfl⟩ := Markup.callName?_eq_some_iff.mp hname
  have found : takeCall ⟨1, false, false⟩ (name ++ '~' :: after) = some (name ++ '~' :: body, rest) := by
    rw [Markup.takeCall_behind_name isName, hbody]
    rfl
  have length : callLength .top ('(' :: (name ++ '~' :: after)) = (name ++ '~' :: body).length + 2 := by
    have inside := callLength_eq (n := ⟨1, false, false⟩) le_rfl (name ++ '~' :: after)
    rw [found] at inside
    exact congrArg Nat.succ inside
  have text : '(' :: (name ++ '~' :: after) = '(' :: (name ++ '~' :: body) ++ [')'] ++ rest := by
    rw [Markup.takeCall_eq hbody]
    simp
  rw [callText?_eq_map, hname, length, text, Option.map_some, List.take_left' (by simp; omega)]

/-- The measured text of a call that is not closed is all that is left. -/
theorem callText?_of_unclosed {cs name after : List Char}
    (hname : callName? cs = some (name, after))
    (hbody : takeCall ⟨1, false, false⟩ after = none) :
    callText? ('(' :: cs) = some ('(' :: cs) := by
  obtain ⟨isName, rfl⟩ := Markup.callName?_eq_some_iff.mp hname
  have missing : takeCall ⟨1, false, false⟩ (name ++ '~' :: after) = none := by
    rw [Markup.takeCall_behind_name isName, hbody]
    rfl
  have length : callLength .top ('(' :: (name ++ '~' :: after)) =
      ('(' :: (name ++ '~' :: after)).length := by
    have inside := callLength_eq (n := ⟨1, false, false⟩) le_rfl (name ++ '~' :: after)
    rw [missing] at inside
    exact congrArg Nat.succ inside
  rw [callText?_eq_map, hname, length, List.take_length]
  rfl

end Lexer

/-! ## Taking the measured text apart -/

namespace Markup

/-- A call that is closed, read from its own text. -/
theorem singleCall_of_closed {offset : Nat} {name after body rest : List Char}
    (hname : IsCallName name) (hbody : takeCall ⟨1, false, false⟩ after = some (body, rest)) :
    singleCall ⟨offset, '(' :: (name ++ '~' :: body) ++ [')']⟩ =
      .ok (some (buildCall offset '(' name body)) := by
  have trimmed : (Fragment.mk offset ('(' :: (name ++ '~' :: body) ++ [')'])).trim =
      ⟨offset, '(' :: (name ++ '~' :: (body ++ [')']))⟩ := by
    have framed := Text.framed_of_ends (c := '(') (d := ')') (by decide) (by decide) (name ++ '~' :: body)
    rw [List.cons_append, Fragment.trim_of_framed framed]
    simp
  have named : callName? (name ++ '~' :: (body ++ [')'])) = some (name, body ++ [')']) :=
    callName?_eq_some_iff.mpr ⟨hname, rfl⟩
  have closed : takeCall (Bracketing.call.step .top '(') (name ++ '~' :: (body ++ [')'])) =
      some (name ++ '~' :: body, []) := by
    change takeCall ⟨1, false, false⟩ _ = _
    rw [takeCall_behind_name hname, takeCall_exchange hbody []]
    rfl
  have behind : (name ++ '~' :: body).drop (name.length + 1) = body := by simp
  rw [singleCall, trimmed]
  dsimp only
  rw [if_neg (by decide), named]
  dsimp only
  rw [closed]
  dsimp only
  rw [behind]

/-- What is wrong with a call that has no end. -/
theorem unclosedCall_cause (name : String) (offset : Nat) (text : List Char) :
    (unclosedCall name offset text).cause =
      if (Bracketing.call.after .top text).quoted then .unterminatedText
      else .unterminatedCall name := by
  unfold unclosedCall
  dsimp only
  split
  · rfl
  · rfl

/-- A call that is not closed, read from all that is left, fails as it does in the scanner. -/
theorem singleCall_of_unclosed {offset : Nat} {cs name after : List Char}
    (hname : callName? cs = some (name, after))
    (hbody : takeCall ⟨1, false, false⟩ after = none) :
    ∃ flaw, singleCall ⟨offset, '(' :: cs⟩ = .error flaw ∧
      flaw.cause = (unclosedCall (String.ofList name) offset ('(' :: cs)).cause := by
  obtain ⟨ds, blanks, hblanks, hds, whole⟩ := Text.trim_cons (c := '(') (by decide) cs
  obtain ⟨isName, hcs⟩ := callName?_eq_some_iff.mp hname
  -- the start of the call does not end with a blank, so trimming leaves all of it
  obtain ⟨behind, rfl, rfl⟩ : ∃ behind, ds = name ++ '~' :: behind ∧ after = behind ++ blanks := by
    have split : (name ++ ['~']) ++ after = ds ++ blanks := by
      rw [List.append_assoc, List.singleton_append, ← hcs]
      exact (List.cons.inj whole).2
    rcases List.append_eq_append_iff.mp split with ⟨behind, hd, hafter⟩ | ⟨lost, hn, hb⟩
    · exact ⟨behind, by simpa using hd, hafter⟩
    · rcases List.eq_nil_or_concat lost with rfl | ⟨front, last, rfl⟩
      · exact ⟨[], by simpa using hn.symm, by simpa using hb.symm⟩
      · have tilde : last = '~' := by
          have ends := congrArg List.getLast? hn
          simpa using ends.symm
        have blank := hblanks last (by simp [hb])
        rw [tilde] at blank
        exact absurd blank (by decide)
  have named : callName? (name ++ '~' :: behind) = some (name, behind) :=
    callName?_eq_some_iff.mpr ⟨isName, rfl⟩
  have unclosed : takeCall (Bracketing.call.step .top '(') (name ++ '~' :: behind) = none := by
    change takeCall ⟨1, false, false⟩ _ = _
    rw [takeCall_behind_name isName]
    cases h : takeCall ⟨1, false, false⟩ behind with
    | none => rfl
    | some taken => rw [takeCall_append h blanks] at hbody; cases hbody
  have trimmed : (Fragment.mk offset ('(' :: cs)).trim = ⟨offset, '(' :: (name ++ '~' :: behind)⟩ := by
    rw [Fragment.trim, hds]
    simp [show Text.isBlank '(' = false by decide]
  refine ⟨unclosedCall (String.ofList name) offset ('(' :: (name ++ '~' :: behind)), ?_, ?_⟩
  · rw [singleCall, trimmed]
    dsimp only
    rw [if_neg (by decide), named]
    dsimp only
    rw [unclosed]
  · rw [unclosedCall_cause, unclosedCall_cause, whole, Bracketing.after_append,
      Bracketing.quoted_after_blanks _ hblanks]

end Markup

/-! ## The agreement -/

namespace Lexer

open Markup (callName? takeCall buildCall unclosedCall)

/-- The call that the lexer recognises at the start of a text: it is measured, then taken apart. -/
def callAt (offset : Nat) (cs : List Char) : Except Flaw (Option Call) :=
  match callText? cs with
  | some text => Markup.singleCall ⟨offset, text⟩
  | none => .ok none

/-- Reading a token starts with looking for a call, and goes on behind the call. -/
theorem next_eq (offset : Nat) (c : Char) (cs : List Char) :
    next offset c cs = callAt offset (c :: cs) >>= fun found =>
      found.elim (plainToken offset c cs) fun call =>
        .ok (.call call, (c :: cs).drop call.source.chars.length) := by
  unfold next callAt
  cases callText? (c :: cs) with
  | none => rfl
  | some text =>
      dsimp only
      rcases Markup.singleCall ⟨offset, text⟩ with flaw | found
      · rfl
      · cases found with
        | none => rfl
        | some call => rfl

variable (offset : Nat) {cs name after body rest : List Char}

theorem callAt_of_closed (hname : callName? cs = some (name, after))
    (hbody : takeCall ⟨1, false, false⟩ after = some (body, rest)) :
    callAt offset ('(' :: cs) = .ok (some (buildCall offset '(' name body)) := by
  rw [callAt, callText?_of_closed hname hbody]
  exact Markup.singleCall_of_closed (Markup.callName?_eq_some_iff.mp hname).1 hbody

theorem callAt_of_unclosed (hname : callName? cs = some (name, after))
    (hbody : takeCall ⟨1, false, false⟩ after = none) :
    ∃ flaw, callAt offset ('(' :: cs) = .error flaw ∧
      flaw.cause = (unclosedCall (String.ofList name) offset ('(' :: cs)).cause := by
  rw [callAt, callText?_of_unclosed hname hbody]
  exact Markup.singleCall_of_unclosed hname hbody

theorem callAt_of_no_name (hname : callName? cs = none) : callAt offset ('(' :: cs) = .ok none := by
  rw [callAt, callText?_eq_map, hname]
  rfl

/-- Behind a call the lexer goes on where the scanner does. -/
theorem next_of_closed (hname : callName? cs = some (name, after))
    (hbody : takeCall ⟨1, false, false⟩ after = some (body, rest)) :
    next offset '(' cs = .ok (.call (buildCall offset '(' name body), rest) := by
  have text : '(' :: cs = (buildCall offset '(' name body).source.chars ++ rest := by
    rw [Markup.callName?_eq hname, Markup.takeCall_eq hbody]
    simp [buildCall]
  rw [next_eq, callAt_of_closed offset hname hbody, text]
  change Except.ok (Token.call _, List.drop _ _) = _
  rw [List.drop_left]

/-- A token that starts with a parenthesis is a call only if a call was recognised. -/
theorem callAt_of_next {call : Call} (h : next offset '(' cs = .ok (.call call, rest)) :
    callAt offset ('(' :: cs) = .ok (some call) := by
  rw [next_eq] at h
  obtain ⟨found, hfound, h⟩ := Outcome.bind_eq_ok.mp h
  cases found with
  | none =>
      exact ((plainToken_plain _ _ _).of_ok h).1.elim
  | some other =>
      cases h
      exact hfound

/-- **The lexer and the scanner recognise the same calls at an opening parenthesis.** The lexer finds
a call exactly where the scanner finds a name and an end, and it is the same call; reading goes on
where the scanner goes on. The lexer finds no call exactly where there is no name, and it fails
exactly where there is a name but no end, for the same reason. -/
theorem lexer_recognises_the_calls_of_the_scanner (offset : Nat) (cs : List Char) :
    (∀ call, callAt offset ('(' :: cs) = .ok (some call) ↔
      ∃ name after body rest, callName? cs = some (name, after) ∧
        takeCall ⟨1, false, false⟩ after = some (body, rest) ∧
        call = buildCall offset '(' name body) ∧
    (∀ call rest, next offset '(' cs = .ok (.call call, rest) ↔
      ∃ name after body, callName? cs = some (name, after) ∧
        takeCall ⟨1, false, false⟩ after = some (body, rest) ∧
        call = buildCall offset '(' name body) ∧
    (callAt offset ('(' :: cs) = .ok none ↔ callName? cs = none) ∧
    ∀ cause, (∃ flaw, callAt offset ('(' :: cs) = .error flaw ∧ flaw.cause = cause) ↔
      ∃ name after, callName? cs = some (name, after) ∧
        takeCall ⟨1, false, false⟩ after = none ∧
        (unclosedCall (String.ofList name) offset ('(' :: cs)).cause = cause := by
  have plain (call : Call) (rest : List Char) (h : callAt offset ('(' :: cs) ≠ .ok (some call)) :
      next offset '(' cs ≠ .ok (.call call, rest) :=
    fun hnext => h (callAt_of_next offset hnext)
  cases hname : callName? cs with
  | none =>
      have absent := callAt_of_no_name offset hname
      simp [absent, plain]
  | some found =>
      obtain ⟨name, after⟩ := found
      cases hbody : takeCall ⟨1, false, false⟩ after with
      | none =>
          obtain ⟨flaw, failed, hcause⟩ := callAt_of_unclosed offset hname hbody
          simp [failed, hcause, hbody, plain]
      | some taken =>
          obtain ⟨body, behind⟩ := taken
          have found := callAt_of_closed offset hname hbody
          have resumed := next_of_closed offset hname hbody
          refine ⟨fun call => ?_, fun call rest => ?_, by simp [found], by simp [found, hbody]⟩
          · simp [found, hbody, eq_comm]
          · simp [resumed, hbody, eq_comm, and_comm]

end Lexer

end Fiction
