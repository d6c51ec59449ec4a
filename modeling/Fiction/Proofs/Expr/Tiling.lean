import Fiction.Proofs.Expansion.Keeps
import Fiction.Proofs.Expr.Alone
import Fiction.Proofs.Expr.Grammar
import Fiction.Proofs.Text.Search
import Mathlib.Data.List.Forall2

/-!
# Fiction.Proofs.Expr.Tiling

**The tokens of a text lie side by side and cover all but blanks.**

* `IsWord.exists_path`: a word is the text of a path. So the names among the tokens can be read as paths, and
  parsing never fails because of one.
* `Stands` says that a token is what the lexer makes of a piece of the text, without the rest of it.
* `Cut.stands`, `Cut.disjoint` and `Cut.covers` follow the tokens through the text, one after the other.
-/

namespace Fiction

/-! ## Parts of a text -/

theorem Text.eq_nil_of_byteLength {cs : List Char} (h : byteLength cs = 0) : cs = [] := by
  cases cs with
  | nil => rfl
  | cons c cs =>
      have size := c.utf8Size_pos
      rw [byteLength_cons] at h
      omega

theorem Text.byteLength_pos {cs : List Char} (h : cs ≠ []) : 0 < byteLength cs :=
  Nat.pos_of_ne_zero fun zero => h (eq_nil_of_byteLength zero)

/-- The beginnings of a text are told apart by their lengths. -/
theorem Text.eq_of_append_eq {xs ys rest rest' : List Char} (h : xs ++ rest = ys ++ rest')
    (length : byteLength xs = byteLength ys) : xs = ys ∧ rest = rest' := by
  rcases List.append_eq_append_iff.mp h with ⟨more, rfl, rfl⟩ | ⟨more, rfl, rfl⟩
  · rw [byteLength_append] at length
    obtain rfl : more = [] := eq_nil_of_byteLength (by omega)
    exact ⟨(List.append_nil _).symm, rfl⟩
  · rw [byteLength_append] at length
    obtain rfl : more = [] := eq_nil_of_byteLength (by omega)
    exact ⟨List.append_nil _, rfl⟩

/-- A character of a text that is made up of two stands in one of them. -/
theorem Text.cases_of_append {xs ys before after : List Char} {c : Char}
    (h : xs ++ ys = before ++ c :: after) :
    (∃ more, xs = before ++ c :: more) ∨ ∃ more, before = xs ++ more ∧ ys = more ++ c :: after := by
  rcases List.append_eq_append_iff.mp h with ⟨more, hbefore, hys⟩ | ⟨more, hxs, hafter⟩
  · exact .inr ⟨more, hbefore, hys⟩
  · cases more with
    | nil => exact .inr ⟨[], by rw [hxs, List.append_nil, List.append_nil], hafter.symm⟩
    | cons d more =>
        obtain ⟨rfl, -⟩ := List.cons.inj hafter
        exact .inl ⟨more, hxs⟩

/-- There is one part of a fragment at a range. -/
theorem Fragment.PartOf.eq_of_span {f s t : Fragment} (hs : s.PartOf f) (ht : t.PartOf f)
    (span : s.span = t.span) : s = t := by
  obtain ⟨before, after, text, position⟩ := hs
  obtain ⟨before', after', text', position'⟩ := ht
  obtain ⟨start, stop⟩ := Span.mk.inj span
  obtain ⟨rfl, behind⟩ := Text.eq_of_append_eq (text.symm.trans text') (by omega)
  rw [Fragment.stop, Fragment.stop, start] at stop
  obtain ⟨chars, -⟩ := Text.eq_of_append_eq behind (by omega)
  cases s
  cases t
  exact congr (congrArg _ start) chars

namespace Lexer

/-! ## Words are paths -/

/-- A text that is a word from its beginning to its end. -/
def IsWord (cs : List Char) : Prop :=
  takeWord cs = (cs, [])

theorem isWord_cons_iff {c : Char} {cs : List Char} :
    IsWord (c :: cs) ↔ continues c cs = true ∧ IsWord cs := by
  rw [IsWord, takeWord]
  constructor
  · intro h
    split at h
    · next goesOn =>
        obtain ⟨word, rest⟩ := Prod.mk.inj h
        exact ⟨goesOn, Prod.ext (List.cons.inj word).2 rest⟩
    · cases h
  · rintro ⟨goesOn, word⟩
    rw [if_pos goesOn, word]

theorem IsWord.isBlank {cs : List Char} (h : IsWord cs) : ∀ c ∈ cs, Text.isBlank c = false := by
  induction cs with
  | nil => exact nofun
  | cons c cs ih =>
      obtain ⟨goesOn, word⟩ := isWord_cons_iff.mp h
      have first : Text.isBlank c = false :=
        Text.isBlank_of_any (P := isWordChar) (by decide +kernel) (isWordChar_of_continues goesOn)
      exact List.forall_mem_cons.mpr ⟨first, ih word⟩

/-- A character that is no dot begins the first piece. -/
theorem split_cons_of_ne {c : Char} (h : c ≠ '.') (cs : List Char) :
    ∃ first, Text.split ['.'] (c :: cs) = (c :: first) :: (Text.split ['.'] cs).tail := by
  obtain ⟨first, later, pieces⟩ := List.exists_cons_of_ne_nil (Text.split_ne_nil ['.'] cs)
  refine ⟨first, ?_⟩
  rw [Text.split_passed (by simpa using h.symm), pieces]
  rfl

/-- Behind a dot in a word comes a character that is none. -/
theorem IsWord.tail_ne_nil {cs : List Char} (h : IsWord cs) :
    ∀ piece ∈ (Text.split ['.'] cs).tail, piece ≠ [] := by
  induction cs with
  | nil => exact nofun
  | cons c cs ih =>
      obtain ⟨goesOn, word⟩ := isWord_cons_iff.mp h
      by_cases dot : c = '.'
      · subst dot
        rcases continues_iff.mp goesOn with itself | ⟨d, rest, rfl, next⟩
        · exact absurd itself (by decide)
        · have other : d ≠ '.' := by
            rintro rfl
            exact absurd next (by decide)
          obtain ⟨first, pieces⟩ := split_cons_of_ne other rest
          have found : Text.split ['.'] ('.' :: d :: rest) = [] :: Text.split ['.'] (d :: rest) :=
            Text.split_found (by decide) (d :: rest)
          have behind := ih word
          rw [pieces] at behind
          rw [found, pieces]
          exact List.forall_mem_cons.mpr ⟨List.cons_ne_nil _ _, behind⟩
      · obtain ⟨first, pieces⟩ := split_cons_of_ne dot cs
        rw [pieces]
        exact ih word

/-- **A word is the text of a path.** -/
theorem IsWord.exists_path {c : Char} {cs : List Char} (h : IsWord (c :: cs)) (hc : c ≠ '.') :
    ∃ path, Path.parse (String.ofList (c :: cs)) = .ok path ∧
      path.text = String.ofList (c :: cs) := by
  obtain ⟨first, pieces⟩ := split_cons_of_ne hc cs
  have joined : List.intercalate ['.'] (Text.split ['.'] (c :: cs)) = c :: cs := by
    rw [← Text.join_eq_intercalate, Text.join_split (by decide)]
  have nonempty : ∀ piece ∈ Text.split ['.'] (c :: cs), piece ≠ [] := by
    have behind := h.tail_ne_nil
    rw [pieces] at behind ⊢
    exact List.forall_mem_cons.mpr ⟨List.cons_ne_nil _ _, behind⟩
  have proper : ∀ piece ∈ Text.split ['.'] (c :: cs), Path.isSegment piece = true ∧ '.' ∉ piece := by
    intro piece hpiece
    refine ⟨?_, Text.not_mem_of_mem_split hpiece⟩
    have visible : ∀ d ∈ piece, Text.isBlank d = false :=
      fun d hd => h.isBlank d (Text.mem_of_mem_split hpiece hd)
    simpa [Path.isSegment, nonempty piece hpiece] using visible
  let path : Path := ⟨String.ofList (c :: first), ((Text.split ['.'] cs).tail).map String.ofList⟩
  have segments : path.segments = (Text.split ['.'] (c :: cs)).map String.ofList := by
    rw [pieces]
    rfl
  have isProper : path.IsProper := by
    intro segment hsegment
    rw [segments] at hsegment
    obtain ⟨piece, hpiece, rfl⟩ := List.mem_map.mp hsegment
    rw [String.toList_ofList]
    exact proper piece hpiece
  have text : path.text = String.ofList (c :: cs) := by
    rw [← String.toList_inj, Path.toList_text, segments, List.map_map, String.toList_ofList]
    have same : String.toList ∘ String.ofList = id := funext fun piece => String.toList_ofList
    rw [same, List.map_id, joined]
  exact ⟨path, text ▸ Path.parse_text isProper, text⟩

theorem wordToken_eq_name {word : List Char} {s : String} (h : wordToken word = .name s) :
    s = String.ofList word := by
  unfold wordToken at h
  split at h
  all_goals cases h
  rfl

/-- A name that is all of its text is a word. -/
theorem isWord_of_next {offset : Nat} {c : Char} {cs : List Char} {s : String}
    (h : next offset c cs = .ok (.name s, [])) :
    s = String.ofList (c :: cs) ∧ IsWord (c :: cs) ∧ c ≠ '.' := by
  rw [next_of_noCall (noCall_of_next h rfl)] at h
  unfold plainToken at h
  split at h
  · obtain ⟨value, -, token, -⟩ := number_cases h
    cases token
  split at h
  · split at h
    · cases h
    · cases h
  split at h
  · next letter =>
      have same : (wordToken (takeWord (c :: cs)).1, (takeWord (c :: cs)).2) = (.name s, []) :=
        Except.ok.inj h
      obtain ⟨token, rest⟩ := Prod.mk.inj same
      obtain ⟨split, alone⟩ := takeWord_alone (c :: cs)
      rw [rest, List.append_nil] at split
      refine ⟨?_, ?_, ?_⟩
      · rw [wordToken_eq_name token, ← split]
      · exact Prod.ext split.symm rest
      · rintro rfl
        exact absurd letter (by decide)
  split at h
  · split at h
    all_goals cases h
  split at h
  · cases h
  split at h
  · cases h
  · split at h
    all_goals cases h

/-! ## Tokens side by side -/

/-- A token is what the lexer makes of a piece of the text that is no longer than the token. If it is a call,
the piece is its source; if it is a name, the piece is the text of a path. -/
structure Stands (piece : Fragment) (l : Lexeme) : Prop where
  span : piece.span = l.span
  nonempty : piece.chars ≠ []
  alone : tokens piece = .ok [l]
  call : ∀ call, l.token = .call call → call.source = piece
  path : ∀ name, l.token = .name name → piece.text = name ∧
    ∃ path, Path.parse name = .ok path ∧ path.text = name

/-- The token at the start of a text stands there. -/
theorem exists_stands {start stop : Nat} {c : Char} {cs rest : List Char} {token : Token}
    (visible : Text.isBlank c = false) (h : next start c cs = .ok (token, rest))
    (hstop : stop + Text.byteLength rest = start + Text.byteLength (c :: cs)) :
    ∃ text, cs = text ++ rest ∧ Stands ⟨start, c :: text⟩ ⟨token, ⟨start, stop⟩⟩ := by
  obtain ⟨text, rfl, alone⟩ := next_alone h
  have ends : stop = start + Text.byteLength (c :: text) := by
    simp only [Text.byteLength_cons, Text.byteLength_append] at hstop ⊢
    omega
  refine ⟨text, rfl, ?_, List.cons_ne_nil _ _, ?_, ?_, ?_⟩
  · rw [ends]
    rfl
  · have cut : Cut start ([] ++ c :: text) [⟨token, ⟨start, stop⟩⟩] :=
      .token nofun visible rfl alone (by rw [ends]; rfl) (.done nofun)
    exact tokens_eq_ok_iff.mpr ⟨cut, List.cons_ne_nil _ _⟩
  · rintro ⟨name, args, source⟩ rfl
    obtain ⟨position, chars⟩ := source_of_next alone
    rw [List.append_nil] at chars
    exact congr (congrArg Fragment.mk position) chars.symm
  · rintro name rfl
    obtain ⟨rfl, word, other⟩ := isWord_of_next alone
    exact ⟨rfl, word.exists_path other⟩

variable {offset : Nat} {cs : List Char} {lexemes : List Lexeme}

/-- Every token stands in its piece of the text. -/
theorem Cut.stands (h : Cut offset cs lexemes) :
    ∀ l ∈ lexemes, ∃ piece : Fragment, piece.PartOf ⟨offset, cs⟩ ∧ Stands piece l := by
  induction h with
  | done => exact nofun
  | @token offset start stop blanks c cs rest token lexemes _ visible hstart hnext hstop _ ih =>
      obtain ⟨text, rfl, stands⟩ := exists_stands visible hnext hstop
      refine List.forall_mem_cons.mpr ⟨⟨_, ⟨blanks, rest, rfl, hstart⟩, stands⟩, ?_⟩
      intro l hl
      obtain ⟨piece, part, stands⟩ := ih l hl
      refine ⟨piece, part.trans ⟨blanks ++ c :: text, [], by simp, ?_⟩, stands⟩
      simp only [Text.byteLength_cons, Text.byteLength_append] at hstop ⊢
      omega

/-- The tokens start behind the position at hand, one behind the other. -/
theorem Cut.disjoint (h : Cut offset cs lexemes) : (∀ l ∈ lexemes, offset ≤ l.span.start) ∧
    lexemes.Pairwise fun first second => first.span.stop ≤ second.span.start := by
  induction h with
  | done => exact ⟨nofun, .nil⟩
  | @token offset start stop blanks c cs rest token lexemes _ _ hstart hnext hstop _ ih =>
      obtain ⟨behind, disjoint⟩ := ih
      obtain ⟨-, fits⟩ := length_of_next hnext
      refine ⟨List.forall_mem_cons.mpr ⟨?_, fun l hl => ?_⟩, List.pairwise_cons.mpr ⟨behind, disjoint⟩⟩
      · show offset ≤ start
        omega
      · have later := behind l hl
        omega

/-- A character that no token covers is blank. -/
theorem Cut.covers (h : Cut offset cs lexemes) {before after : List Char} {c : Char}
    (split : cs = before ++ c :: after)
    (free : ∀ l ∈ lexemes, offset + Text.byteLength before < l.span.start ∨
      l.span.stop ≤ offset + Text.byteLength before) : Text.isBlank c = true := by
  induction h generalizing before with
  | done blanks => exact blanks c (split ▸ by simp)
  | @token offset start stop blanks d cs rest token lexemes hblanks visible hstart hnext hstop _ ih =>
      obtain ⟨text, rfl, -⟩ := exists_stands visible hnext hstop
      obtain ⟨first, others⟩ := List.forall_mem_cons.mp free
      dsimp only at first
      rcases Text.cases_of_append split with ⟨more, rfl⟩ | ⟨more, rfl, behind⟩
      · exact hblanks c (by simp)
      rw [← List.cons_append] at behind
      simp only [Text.byteLength_cons, Text.byteLength_append] at hstop first others
      rcases Text.cases_of_append behind with ⟨inner, piece⟩ | ⟨later, rfl, left⟩
      · -- the token covers the character
        have size := congrArg Text.byteLength piece
        have char := c.utf8Size_pos
        simp only [Text.byteLength_cons, Text.byteLength_append] at size
        omega
      · refine ih left fun l hl => ?_
        have beside := others l hl
        simp only [Text.byteLength_cons, Text.byteLength_append] at beside
        omega

/-- **A part of the text that no token overlaps is blank.** -/
theorem Cut.isBlank {f gap : Fragment} (h : Cut f.offset f.chars lexemes) (part : gap.PartOf f)
    (free : ∀ l ∈ lexemes, gap.span.stop ≤ l.span.start ∨ l.span.stop ≤ gap.span.start) :
    gap.isBlank = true := by
  obtain ⟨before, after, text, position⟩ := part
  refine List.all_eq_true.mpr fun c hc => ?_
  obtain ⟨front, back, chars⟩ := List.append_of_mem hc
  have size := congrArg Text.byteLength chars
  have char := c.utf8Size_pos
  simp only [Text.byteLength_cons, Text.byteLength_append] at size
  have split : f.chars = (before ++ front) ++ c :: (back ++ after) := by
    rw [text, chars]
    simp
  refine h.covers split fun l hl => ?_
  have beside := free l hl
  simp only [Fragment.span, Fragment.stop] at beside
  rw [Text.byteLength_append]
  omega

end Lexer

/-! ## In front of the parser -/

namespace Expansion

/-- What expanding calls makes of a token: it is kept, or it is a call and becomes a value. -/
inductive Expanded (l : Lexeme) : Lexeme → Prop
  | kept : Expanded l l
  | made {call : Call} (token : l.token = .call call) (v : Value) : Expanded l ⟨.value v, l.span⟩

variable {lexemes expanded : List Lexeme}

/-- Expanding calls goes from token to token. -/
theorem expanded_of_expandCalls {call : Caller} {setting : Setting} {p q : Progress} (afterBang : Bool)
    (h : (expandCalls call afterBang lexemes).runIn setting p = (.ok expanded, q)) :
    List.Forall₂ Expanded lexemes expanded := by
  induction lexemes generalizing afterBang p expanded with
  | nil =>
      cases h
      exact .nil
  | cons first rest ih =>
      have behind {kept : Lexeme} {r : Progress} (hkept : Expanded first kept)
          (h : (expandCalls call (kept.token.isMark .bang) rest >>= fun others =>
            pure (kept :: others)).runIn setting r = (.ok expanded, q)) :
          List.Forall₂ Expanded (first :: rest) expanded := by
        obtain ⟨others, r', hothers, hcons⟩ := exists_of_runIn_bind h
        cases hcons
        exact .cons hkept (ih _ hothers)
      unfold expandCalls at h
      dsimp only at h
      split at h
      · next token =>
          obtain ⟨v, r, -, h⟩ := exists_of_runIn_bind h
          exact behind (.made token v) h
      · exact behind .kept h

/-- Expanding calls adds nothing but values. -/
theorem mem_of_expanded (h : List.Forall₂ Expanded lexemes expanded) {l : Lexeme} (hl : l ∈ expanded)
    (token : ∀ v, l.token ≠ .value v) : l ∈ lexemes := by
  induction h with
  | nil => exact hl
  | cons first _ ih =>
      rcases List.mem_cons.mp hl with rfl | later
      · cases first with
        | kept => exact List.mem_cons_self
        | made _ v => exact absurd rfl (token v)
      · exact List.mem_cons_of_mem _ (ih later)

/-- Expanding calls leaves the tokens where they are. -/
theorem spans_of_expanded (h : List.Forall₂ Expanded lexemes expanded) :
    expanded.map Lexeme.span = lexemes.map Lexeme.span := by
  induction h with
  | nil => rfl
  | cons first _ ih =>
      rw [List.map_cons, List.map_cons, ih]
      cases first with
      | kept => rfl
      | made => rfl

end Expansion

/-- Where all names are paths, parsing does not fail because of a path. -/
theorem Parser.cause_ne_invalidPath {tokens : List Lexeme} {whole : Span} {flaw : Flaw}
    (paths : ∀ l ∈ tokens, ∀ name, l.token = .name name → ∃ path, Path.parse name = .ok path)
    (h : parse tokens whole = .error flaw) (path : String) : flaw.cause ≠ .invalidPath path := by
  intro cause
  obtain ⟨l, hl, name, token, failed⟩ := misnamed_of_parse h path cause
  obtain ⟨found, parsed⟩ := paths l hl name token
  rw [parsed] at failed
  cases failed

namespace Lexer

/-- **The text of a call is the call**: it stands where its token does, and has this token and no other. -/
theorem tokens_source {f : Fragment} {lexemes : List Lexeme} (h : tokens f = .ok lexemes)
    {l : Lexeme} (hl : l ∈ lexemes) {c : Call} (token : l.token = .call c) :
    c.span = l.span ∧ tokens c.source = .ok [l] := by
  obtain ⟨cut, -⟩ := tokens_eq_ok_iff.mp h
  obtain ⟨piece, -, stands⟩ := cut.stands l hl
  obtain rfl : c.source = piece := stands.call c token
  exact ⟨stands.span, stands.alone⟩

/-- **The tokens of a text tile it.** They are not empty, lie in the text one behind the other, and begin and
end between characters. What no token overlaps is blank.

A token does not depend on the text around it: the piece of the text at its range has this token and no other.
If it is a name, the piece is the name, and the name is read as a path that is written in the same way. So
parsing never fails because of the path of a name, be it before or after calls are expanded. -/
theorem tokens_tile {f : Fragment} {lexemes : List Lexeme} (h : tokens f = .ok lexemes) :
    (∀ l ∈ lexemes, l.span.start < l.span.stop ∧ l.span.Within f ∧
      ∃ piece : Fragment, piece.PartOf f ∧ piece.span = l.span) ∧
    (lexemes.Pairwise fun first second => first.span.stop ≤ second.span.start) ∧
    (∀ gap : Fragment, gap.PartOf f →
      (∀ l ∈ lexemes, gap.span.stop ≤ l.span.start ∨ l.span.stop ≤ gap.span.start) →
      gap.isBlank = true) ∧
    (∀ l ∈ lexemes, ∀ piece : Fragment, piece.PartOf f → piece.span = l.span →
      tokens piece = .ok [l] ∧
      ∀ name, l.token = .name name → piece.text = name ∧
        ∃ path, Path.parse name = .ok path ∧ path.text = name) ∧
    (∀ whole flaw, Parser.parse lexemes whole = .error flaw → ∀ path, flaw.cause ≠ .invalidPath path) ∧
    ∀ (call : Expansion.Caller) (setting : Setting) (p q : Progress) (expanded : List Lexeme),
      (Expansion.expandCalls call false lexemes).runIn setting p = (.ok expanded, q) →
      ∀ whole flaw, Parser.parse expanded whole = .error flaw →
        ∀ path, flaw.cause ≠ .invalidPath path := by
  obtain ⟨cut, -⟩ := tokens_eq_ok_iff.mp h
  have paths : ∀ l ∈ lexemes, ∀ name, l.token = .name name → ∃ path, Path.parse name = .ok path := by
    intro l hl name token
    obtain ⟨piece, -, stands⟩ := cut.stands l hl
    obtain ⟨-, path, parsed, -⟩ := stands.path name token
    exact ⟨path, parsed⟩
  refine ⟨fun l hl => ?_, cut.disjoint.2, fun gap part free => cut.isBlank part free,
    fun l hl piece part span => ?_, fun whole flaw failed => Parser.cause_ne_invalidPath paths failed, ?_⟩
  · obtain ⟨piece, part, stands⟩ := cut.stands l hl
    refine ⟨?_, stands.span ▸ part.span_within, piece, part, stands.span⟩
    have size := Text.byteLength_pos stands.nonempty
    rw [← stands.span]
    show piece.offset < piece.offset + Text.byteLength piece.chars
    omega
  · obtain ⟨other, part', stands⟩ := cut.stands l hl
    obtain rfl : piece = other := part.eq_of_span part' (span.trans stands.span.symm)
    exact ⟨stands.alone, stands.path⟩
  · intro call setting p q expanded ran whole flaw failed
    refine Parser.cause_ne_invalidPath (fun l hl name token => ?_) failed
    have before := Expansion.expanded_of_expandCalls false ran
    exact paths l (Expansion.mem_of_expanded before hl (by simp [token])) name token

/-- Names with a hyphen and a dot, an operator of two characters, and a call. -/
def powerText : Fragment := ⟨7, "né.b-c ** (f~ -x)".toList⟩

/-- The tokens of `powerText`. -/
def powerTokens : List Lexeme :=
  [⟨.name "né.b-c", ⟨7, 14⟩⟩, ⟨.operator .power, ⟨15, 17⟩⟩,
    ⟨.call ⟨"f", [⟨21, " -x".toList⟩], ⟨18, "(f~ -x)".toList⟩⟩, ⟨18, 25⟩⟩]

theorem powerTokens_tile : tokens powerText = .ok powerTokens ∧
    tokens ⟨7, "né.b-c".toList⟩ = .ok [⟨.name "né.b-c", ⟨7, 14⟩⟩] ∧
    (∃ path, Path.parse "né.b-c" = .ok path ∧ path.text = "né.b-c") ∧
    Fragment.isBlank ⟨14, [' ']⟩ = true := by
  have read : tokens powerText = .ok powerTokens := rfl
  obtain ⟨-, -, gaps, alone, -⟩ := tokens_tile read
  have piece : Fragment.PartOf ⟨7, "né.b-c".toList⟩ powerText := ⟨[], " ** (f~ -x)".toList, rfl, rfl⟩
  have gap : Fragment.PartOf ⟨14, [' ']⟩ powerText := ⟨"né.b-c".toList, "** (f~ -x)".toList, rfl, rfl⟩
  obtain ⟨same, path⟩ := alone _ List.mem_cons_self _ piece rfl
  exact ⟨read, same, (path _ rfl).2, gaps _ gap (by decide)⟩

end Lexer

end Fiction
