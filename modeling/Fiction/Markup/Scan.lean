import Fiction.Fault.Basic
import Fiction.Markup.Nesting
import Fiction.Markup.Segment
import Fiction.Text.Letter

/-!
# Fiction.Markup.Scan

Scanning markup into segments.

* `Markup.callName?` recognises the start of a call and `Markup.takeCall` finds its end.
* `Markup.takeLink` finds the end of a link.
* `Markup.scan` cuts markup into text, calls and links.
* `Markup.singleCall` reads a fragment that is one call.

Nothing is expanded here. The pieces keep their positions, so that later faults can point to them.
-/

namespace Fiction.Markup

/-! ## Calls -/

/-- A character that the name of a call may have after its first one. -/
def isNamePart (c : Char) : Bool :=
  Text.isPlain c || c = '.' || c = '-'

/-- The name of a call and its body, from behind the opening parenthesis: a name that is directly
followed by a tilde. -/
def callName? : List Char → Option (List Char × List Char)
  | [] => none
  | c :: cs =>
      if Text.isPlainStart c then
        match cs.dropWhile isNamePart with
        | '~' :: body => some (c :: cs.takeWhile isNamePart, body)
        | _ => none
      else none

/-- The body of a call up to the parenthesis that closes it, and what follows. The nesting counts
the parenthesis that opens it. -/
def takeCall : Nesting → List Char → Option (List Char × List Char)
  | _, [] => none
  | n, c :: cs =>
      if n.isBare && c == ')' && decide (n.depth ≤ 1) then some ([], cs)
      else (takeCall (Bracketing.call.step n c) cs).map fun (body, rest) => (c :: body, rest)

/-- A call is closed by a parenthesis, and nothing is lost. -/
theorem takeCall_eq {n : Nesting} {cs body rest : List Char}
    (h : takeCall n cs = some (body, rest)) : cs = body ++ ')' :: rest := by
  induction cs generalizing n body rest with
  | nil => simp [takeCall] at h
  | cons c cs ih =>
      rw [takeCall] at h
      split at h
      · next hc =>
          simp only [Bool.and_eq_true, beq_iff_eq] at hc
          simp only [Option.some.injEq, Prod.mk.injEq] at h
          simp [← h.1, ← h.2, hc.1.2]
      · obtain ⟨⟨b, r⟩, hb, he⟩ := Option.map_eq_some_iff.1 h
        simp only [Prod.mk.injEq] at he
        rw [← he.1, ih hb, ← he.2, List.cons_append]

/-- The position of the quote that was opened last. -/
def lastQuote : Nesting → (pos found : Nat) → List Char → Nat
  | _, _, found, [] => found
  | n, pos, found, c :: cs =>
      let n' := Bracketing.call.step n c
      lastQuote n' (pos + c.utf8Size) (if n'.quoted && !n.quoted then pos else found) cs

/-- Why a call has no end: a quote in it is open, or the call itself is. The text starts with the
character that opens the call. -/
def unclosedCall (name : String) (offset : Nat) (text : List Char) : Flaw :=
  let stop := offset + Text.byteLength text
  if (Bracketing.call.after .top text).quoted then
    ⟨.unterminatedText, ⟨lastQuote .top offset offset text, stop⟩, some name⟩
  else .of (.unterminatedCall name) ⟨offset, stop⟩

/-- The arguments in the body of a call. One more separator may stand in front of the first
argument, and a blank body has no arguments. -/
def arguments (body : Fragment) : List Fragment :=
  let lead := body.chars.takeWhile Text.isBlank
  let body :=
    match body.chars.dropWhile Text.isBlank with
    | '~' :: _ => body.drop (lead.length + 1)
    | _ => body
  if body.isBlank then [] else body.splitTop .argument '~'

/-- A call from its position, the character that opens it, its name and its body. -/
def buildCall (offset : Nat) (opening : Char) (name body : List Char) : Call :=
  ⟨String.ofList name,
    arguments ⟨offset + opening.utf8Size + Text.byteLength name + 1, body⟩,
    ⟨offset, opening :: name ++ '~' :: body ++ [')']⟩⟩

/-! ## Links -/

/-- The inside of a link up to its closing brackets, and what follows. -/
def takeLink : Nesting → List Char → Option (List Char × List Char)
  | _, [] => none
  | n, c :: cs =>
      if n.isTop && c == ']' && cs.head? == some ']' then some ([], cs.drop 1)
      else (takeLink (Bracketing.link.step n c) cs).map fun (inner, rest) => (c :: inner, rest)

/-- What follows a link is shorter than what the link is taken from. -/
theorem length_takeLink_lt {n : Nesting} {cs inner rest : List Char}
    (h : takeLink n cs = some (inner, rest)) : rest.length < cs.length := by
  induction cs generalizing n inner rest with
  | nil => simp [takeLink] at h
  | cons c cs ih =>
      rw [takeLink] at h
      split at h
      · simp only [Option.some.injEq, Prod.mk.injEq] at h
        rw [← h.2, List.length_drop, List.length_cons]
        omega
      · obtain ⟨⟨i, r⟩, hb, he⟩ := Option.map_eq_some_iff.1 h
        simp only [Prod.mk.injEq] at he
        have := ih hb
        rw [← he.2, List.length_cons]
        omega

/-- A link from its range and its inside. -/
def buildLink (span : Span) (inner : Fragment) : Except Flaw LinkText :=
  let parts := inner.splitTop .link '|'
  let build (label target : Fragment) (traversal : Option Fragment) : Except Flaw LinkText :=
    if target.isBlank then .error (.of (.malformedLink .noTarget) span)
    else .ok ⟨label, target, traversal, span⟩
  match parts with
  | [only] => build only only none
  | [label, target] => build label target none
  | [label, target, traversal] => build label target (some traversal)
  | parts => .error (.of (.malformedLink (.partCount parts.length)) span)

/-! ## Segments -/

/-- Puts a character in front of segments, as part of the text they start with. -/
def consText (offset : Nat) (c : Char) : List Segment → List Segment
  | .text f :: rest => .text ⟨offset, c :: f.chars⟩ :: rest
  | segments => .text ⟨offset, [c]⟩ :: segments

/-- What follows the name of a call is shorter than what the name is taken from. -/
theorem length_callName?_lt {cs name body : List Char} (h : callName? cs = some (name, body)) :
    body.length < cs.length := by
  cases cs with
  | nil => simp [callName?] at h
  | cons c cs =>
      rw [callName?] at h
      split at h
      · split at h
        · next hd =>
            simp only [Option.some.injEq, Prod.mk.injEq] at h
            have := (List.dropWhile_sublist isNamePart (l := cs)).length_le
            rw [hd, List.length_cons] at this
            rw [← h.2, List.length_cons]
            omega
        · simp at h
      · simp at h

/-- The segments of a text that starts at a position. `escaped` tells that a backslash stands in
front of it. -/
def scanFrom (offset : Nat) (escaped : Bool) : List Char → Except Flaw (List Segment)
  | [] => .ok []
  | c :: cs =>
      let next := offset + c.utf8Size
      if escaped then consText offset c <$> scanFrom next false cs
      else if c = '\\' then consText offset c <$> scanFrom next true cs
      else if c = '(' then
        match _hn : callName? cs with
        | none => consText offset c <$> scanFrom next false cs
        | some (name, rest) =>
            match _hb : takeCall ⟨1, false, false⟩ rest with
            | none => .error (unclosedCall (String.ofList name) offset (c :: cs))
            | some (body, rest) =>
                let call := buildCall offset c name body
                (.call call :: ·) <$> scanFrom call.source.stop false rest
      else if c = '[' && cs.head? == some '[' then
        match _hl : takeLink .top (cs.drop 1) with
        | none => .error (.of .unterminatedLink ⟨offset, offset + Text.byteLength (c :: cs)⟩)
        | some (inner, rest) =>
            let stop := offset + 2 + Text.byteLength inner + 2
            match buildLink ⟨offset, stop⟩ ⟨offset + 2, inner⟩ with
            | .error flaw => .error flaw
            | .ok link => (.link link :: ·) <$> scanFrom stop false rest
      else consText offset c <$> scanFrom next false cs
termination_by cs => cs.length
decreasing_by
  all_goals simp only [List.length_cons]
  all_goals try omega
  · have := congrArg List.length (takeCall_eq _hb)
    have := length_callName?_lt _hn
    simp only [List.length_append, List.length_cons] at *
    omega
  · have := length_takeLink_lt _hl
    rw [List.length_drop] at this
    omega

/-- The segments of a fragment. -/
def scan (f : Fragment) : Except Flaw (List Segment) :=
  scanFrom f.offset false f.chars

/-- The call that a fragment consists of, if it consists of one. Only the character behind the
first one decides whether a call starts. -/
def singleCall (f : Fragment) : Except Flaw (Option Call) :=
  match f.trim with
  | ⟨_, []⟩ => .ok none
  | ⟨offset, c :: cs⟩ =>
      if c.utf8Size ≠ 1 then .ok none
      else
        match callName? cs with
        | none => .ok none
        | some (name, rest) =>
            match takeCall (Bracketing.call.step .top c) (name ++ '~' :: rest) with
            | none => .error (unclosedCall (String.ofList name) offset (c :: cs))
            | some (body, []) =>
                .ok (some (buildCall offset c name (body.drop (name.length + 1))))
            | some _ => .ok none

end Fiction.Markup
