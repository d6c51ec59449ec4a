import Fiction.Expr.Lexer
import Fiction.Expr.Parser
import Fiction.Proofs.Expr.Quoted
import Fiction.Proofs.Markup.Pieces
import Fiction.Proofs.Value.Parts

/-!
# Fiction.Proofs.Expr.Pieces

**Expressions take their calls from the text, and know where they stand.** The lexer recognises calls
as the scanner of markup does, so each of them stands in the text, as do the tokens and whatever
cannot be read (`tokens_sound`). The parser only moves them: a call in the tree is one of the tokens,
and every range in the tree covers ranges of tokens (`parse_sound`).

* `Lexeme.All` and `Expr.All` say of tokens and trees that what they hold has one property and their
  ranges another. `Token.All` is such a property: calls have one and values another.
* `Lexer.Plain` and `Parser.Takes` also say what is left: a suffix of the characters or the tokens.
-/

namespace Fiction

/-! ## Tokens and trees -/

/-- The call that a token holds. -/
def Token.call? : Token → Option Call
  | .call c => some c
  | _ => none

/-- The call that a token holds has one property and the value that it holds another. -/
def Token.All (good : Call → Prop) (fine : Value → Prop) : Token → Prop
  | .call c => good c
  | .value v => fine v
  | .name _ | .binding _ | .operator _ | .not | .mark _ => True

theorem Token.All.mono {good good' : Call → Prop} {fine fine' : Value → Prop} {t : Token}
    (h : t.All good fine) (hgood : ∀ c, good c → good' c) (hfine : ∀ v, fine v → fine' v) :
    t.All good' fine' := by
  cases t with
  | call c => exact hgood c h
  | value v => exact hfine v h
  | name s | binding c | operator op | not | mark m => trivial

theorem Token.All.call?_eq_none {fine : Value → Prop} {t : Token} (h : t.All (fun _ => False) fine) :
    t.call? = none := by
  cases t with
  | call c => exact h.elim
  | _ => rfl

/-- A token has one property and its range another. -/
structure Lexeme.All (good : Token → Prop) (placed : Span → Prop) (l : Lexeme) : Prop where
  token : good l.token
  span : placed l.span

theorem Lexeme.All.mono {good good' : Token → Prop} {placed placed' : Span → Prop} {l : Lexeme}
    (h : l.All good placed) (hgood : ∀ t, good t → good' t)
    (hplaced : ∀ s, placed s → placed' s) : l.All good' placed' :=
  ⟨hgood _ h.token, hplaced _ h.span⟩

/-- The values of an expression, and the calls that it keeps for the elements of collections, have one
property as tokens, and the ranges of the expression and all its parts have another. -/
inductive Expr.All (good : Token → Prop) (placed : Span → Prop) : Expr → Prop
  | literal {s v} : placed s → good (.value v) → All good placed (.literal s v)
  | lookup {s p} : placed s → All good placed (.lookup s p)
  | list {s items} : placed s → (∀ x ∈ items, All good placed x) → All good placed (.list s items)
  | mapping {s entries} : placed s →
      (∀ entry ∈ entries, All good placed entry.1) → (∀ entry ∈ entries, All good placed entry.2) →
      All good placed (.mapping s entries)
  | unary {s op x} : placed s → All good placed x → All good placed (.unary s op x)
  | binary {s op place l r} : placed s → placed place → All good placed l → All good placed r →
      All good placed (.binary s op place l r)
  | ternary {s op place l m r} : placed s → placed place → All good placed l → All good placed m →
      All good placed r → All good placed (.ternary s op place l m r)
  | index {s t i} : placed s → All good placed t → All good placed i →
      All good placed (.index s t i)
  | reduce {s op place l seed signed} : placed s → placed place → All good placed l →
      All good placed seed → (∀ x ∈ signed, All good placed x) →
      All good placed (.reduce s op place l seed signed)
  | each {s c body} : placed s → All good placed c → All good placed body →
      All good placed (.each s c body)
  | eachCall {s c body} : placed s → All good placed c → good (.call body) →
      All good placed (.eachCall s c body)

namespace Expr.All

variable {good : Token → Prop} {placed : Span → Prop}

theorem span {e : Expr} (h : e.All good placed) : placed e.span := by
  cases h <;> assumption

/-- Parentheses around an expression change nothing but its range. -/
theorem withSpan {e : Expr} {s : Span} (h : e.All good placed) (hs : placed s) :
    (e.withSpan s).All good placed := by
  cases h with
  | literal _ value => exact .literal hs value
  | lookup _ => exact .lookup hs
  | list _ items => exact .list hs items
  | mapping _ keys values => exact .mapping hs keys values
  | unary _ x => exact .unary hs x
  | binary _ place l r => exact .binary hs place l r
  | ternary _ place l m r => exact .ternary hs place l m r
  | index _ t i => exact .index hs t i
  | reduce _ place l seed signed => exact .reduce hs place l seed signed
  | each _ c body => exact .each hs c body
  | eachCall _ c body => exact .eachCall hs c body

end Expr.All

mutual

/-- Where every token and every range has its property, every expression does. -/
theorem Expr.all_of_forall {good : Token → Prop} {placed : Span → Prop} (hgood : ∀ t, good t)
    (hplaced : ∀ s, placed s) : ∀ e : Expr, e.All good placed
  | .literal _ _ => .literal (hplaced _) (hgood _)
  | .lookup _ _ => .lookup (hplaced _)
  | .list _ items => .list (hplaced _) (items_of_forall hgood hplaced items)
  | .mapping _ entries =>
      have all := entries_of_forall hgood hplaced entries
      .mapping (hplaced _) (fun entry h => (all entry h).1) fun entry h => (all entry h).2
  | .unary _ _ x => .unary (hplaced _) (x.all_of_forall hgood hplaced)
  | .binary _ _ _ l r =>
      .binary (hplaced _) (hplaced _) (l.all_of_forall hgood hplaced) (r.all_of_forall hgood hplaced)
  | .ternary _ _ _ l m r =>
      .ternary (hplaced _) (hplaced _) (l.all_of_forall hgood hplaced)
        (m.all_of_forall hgood hplaced) (r.all_of_forall hgood hplaced)
  | .index _ t i => .index (hplaced _) (t.all_of_forall hgood hplaced) (i.all_of_forall hgood hplaced)
  | .reduce _ _ _ l seed none =>
      .reduce (hplaced _) (hplaced _) (l.all_of_forall hgood hplaced)
        (seed.all_of_forall hgood hplaced) (by simp)
  | .reduce _ _ _ l seed (some x) =>
      .reduce (hplaced _) (hplaced _) (l.all_of_forall hgood hplaced)
        (seed.all_of_forall hgood hplaced) (by simpa using x.all_of_forall hgood hplaced)
  | .each _ c body =>
      .each (hplaced _) (c.all_of_forall hgood hplaced) (body.all_of_forall hgood hplaced)
  | .eachCall _ c body => .eachCall (hplaced _) (c.all_of_forall hgood hplaced) (hgood _)

theorem Expr.items_of_forall {good : Token → Prop} {placed : Span → Prop} (hgood : ∀ t, good t)
    (hplaced : ∀ s, placed s) : ∀ items : List Expr, ∀ x ∈ items, x.All good placed
  | [] => by simp
  | x :: rest => List.forall_mem_cons.mpr
      ⟨x.all_of_forall hgood hplaced, items_of_forall hgood hplaced rest⟩

theorem Expr.entries_of_forall {good : Token → Prop} {placed : Span → Prop} (hgood : ∀ t, good t)
    (hplaced : ∀ s, placed s) : ∀ entries : List (Expr × Expr), ∀ entry ∈ entries,
      entry.1.All good placed ∧ entry.2.All good placed
  | [] => by simp
  | (k, x) :: rest => List.forall_mem_cons.mpr
      ⟨⟨k.all_of_forall hgood hplaced, x.all_of_forall hgood hplaced⟩,
        entries_of_forall hgood hplaced rest⟩

end

/-! ## The lexer: plain tokens -/

namespace Fragment

/-- What a text starts with stands at the same position. -/
theorem prefix_partOf (offset : Nat) {cs ds : List Char} (h : ds <+: cs) :
    PartOf ⟨offset, ds⟩ ⟨offset, cs⟩ := by
  obtain ⟨after, rfl⟩ := h
  exact ⟨[], after, rfl, rfl⟩

/-- What a text ends with stands behind the rest. -/
theorem suffix_partOf (offset : Nat) {cs ds : List Char} (h : ds <:+ cs) :
    PartOf ⟨offset + (Text.byteLength cs - Text.byteLength ds), ds⟩ ⟨offset, cs⟩ := by
  obtain ⟨before, rfl⟩ := h
  refine ⟨before, [], by simp, ?_⟩
  simp

end Fragment

namespace Lexer

/-- What is read is no call, holds no collection and leaves a suffix of what is behind the first
character; a flaw stands in the text. -/
def Plain (offset : Nat) (c : Char) (cs : List Char) : Step → Prop :=
  Sound (·.Within ⟨offset, c :: cs⟩) fun found =>
    found.1.All (fun _ => False) Value.IsAtom ∧ found.2 <:+ cs

theorem exponent?_suffix {cs rest : List Char} {e : Int} (h : exponent? cs = some (e, rest)) :
    rest <:+ cs := by
  have digits {cs : List Char} {n : Int}
      (h : (if (cs.takeWhile Char.isDigit).isEmpty then none
        else some (n, cs.dropWhile Char.isDigit)) = some (e, rest)) : rest <:+ cs := by
    split at h
    · simp at h
    · simp only [Option.some.injEq, Prod.mk.injEq] at h
      exact h.2 ▸ List.dropWhile_suffix _
  unfold exponent? at h
  split at h
  · split at h
    · dsimp only at h
      split at h
      · exact (digits h).trans ((List.suffix_cons _ _).trans (List.suffix_cons _ _))
      · exact (digits h).trans ((List.suffix_cons _ _).trans (List.suffix_cons _ _))
      · exact (digits h).trans (List.suffix_cons _ _)
    · simp at h
  · simp at h

theorem fraction?_suffix {cs ds rest : List Char} (h : fraction? cs = some (ds, rest)) :
    rest <:+ cs := by
  unfold fraction? at h
  split at h
  · dsimp only at h
    split at h
    · simp at h
    · simp only [Option.some.injEq, Prod.mk.injEq] at h
      rw [← h.2]
      exact (List.dropWhile_suffix _).trans (List.suffix_cons _ _)
  · simp at h

theorem number_plain {offset : Nat} {c : Char} (hc : c.isDigit = true) (cs : List Char) :
    Plain offset c cs (number offset (c :: cs)) := by
  have whole : (c :: cs).dropWhile Char.isDigit <:+ cs := by
    rw [List.dropWhile_cons_of_pos hc]
    exact List.dropWhile_suffix _
  have digits : Fragment.PartOf ⟨offset, (c :: cs).takeWhile Char.isDigit⟩ ⟨offset, c :: cs⟩ :=
    Fragment.prefix_partOf offset (List.takeWhile_prefix _)
  have real (ds : List Char) (e : Int) {rest : List Char} (h : rest <:+ cs) :
      Plain offset c cs (number.real ds e rest) := ⟨trivial, h⟩
  unfold number
  dsimp only
  cases hf : fraction? ((c :: cs).dropWhile Char.isDigit) with
  | none =>
      dsimp only
      split
      · next hx => exact real _ _ ((exponent?_suffix hx).trans whole)
      · rw [if_neg Bool.false_ne_true]
        split
        · exact ⟨trivial, whole⟩
        · exact digits.span_within
  | some found =>
      obtain ⟨ds, after⟩ := found
      have behind : after <:+ cs := (fraction?_suffix hf).trans whole
      dsimp only
      split
      · next hx => exact real _ _ ((exponent?_suffix hx).trans behind)
      · exact real _ _ behind

theorem quoted?_suffix {cs text rest : List Char} (h : quoted? cs = some (text, rest)) :
    rest <:+ cs := by
  obtain ⟨inner, -, rfl⟩ := exists_quoted h
  exact ⟨inner ++ ['"'], by simp⟩

theorem takeWord_suffix (cs : List Char) : (takeWord cs).2 <:+ cs := by
  induction cs with
  | nil => exact List.suffix_refl _
  | cons c cs ih =>
      rw [takeWord]
      split
      · exact ih.trans (List.suffix_cons _ _)
      · exact List.suffix_refl _

/-- A word has the letter it starts with. -/
theorem takeWord_cons_suffix {c : Char} (hc : (Text.isLetter c || c = '_') = true)
    (cs : List Char) : (takeWord (c :: cs)).2 <:+ cs := by
  have starts : continues c cs = true := by
    rw [Bool.or_eq_true] at hc
    rcases hc with letter | underscore
    · simp [continues, Text.isAlphanumeric, letter]
    · simp [continues, underscore]
  rw [takeWord, if_pos starts]
  exact takeWord_suffix cs

theorem wordToken_all (word : List Char) :
    (wordToken word).All (fun _ => False) Value.IsAtom := by
  unfold wordToken
  split <;> trivial

theorem operator?_suffix {cs rest : List Char} {op : Operator}
    (h : operator? cs = some (op, rest)) : rest <:+ cs.tail := by
  unfold operator? at h
  split at h <;> cases h <;> simp

theorem plainToken_plain (offset : Nat) (c : Char) (cs : List Char) :
    Plain offset c cs (plainToken offset c cs) := by
  have first : (unexpectedAt offset c).span.Within ⟨offset, c :: cs⟩ :=
    (Fragment.prefix_partOf offset ⟨cs, List.singleton_append⟩).span_within
  unfold plainToken
  split
  · next digit => exact number_plain digit cs
  split
  · split
    · next hq => exact ⟨trivial, quoted?_suffix hq⟩
    · exact (Fragment.PartOf.refl ⟨offset, c :: cs⟩).span_within
  split
  · next letter => exact ⟨wordToken_all _, takeWord_cons_suffix letter cs⟩
  split
  · split
    · exact ⟨trivial, List.suffix_cons _ _⟩
    · exact ⟨trivial, List.suffix_cons _ _⟩
    · exact first
  split
  · exact ⟨trivial, List.suffix_refl _⟩
  split
  · next ho => exact ⟨trivial, operator?_suffix ho⟩
  · split
    · exact ⟨trivial, List.suffix_refl _⟩
    · exact first

end Lexer

/-! ## The lexer: calls -/

namespace Markup

/-- The body of a call that ends a text, found together with its name, is found without it. -/
theorem takeCall_name {n : Nesting} {name rest body : List Char}
    (h : takeCall n (name ++ '~' :: rest) = some (body, [])) :
    rest = body.drop (name.length + 1) ++ [')'] := by
  have text := takeCall_eq h
  rcases List.eq_nil_or_concat rest with rfl | ⟨front, last, rfl⟩
  · -- then the call would end with its tilde
    have ends := congrArg List.getLast? text
    simp at ends
  · rw [List.concat_eq_append, ← List.cons_append, ← List.append_assoc] at text
    obtain ⟨hbody, hlast⟩ := List.append_inj' text rfl
    rw [← hbody, List.concat_eq_append, hlast]
    simp

/-- A call that is read from a text of its own stands in it and is not empty. -/
theorem singleCall_sound (offset : Nat) (inner : List Char) :
    Sound (·.Within ⟨offset, '(' :: inner⟩)
      (fun found => ∀ call ∈ found, call.Within ⟨offset, '(' :: inner⟩ ∧ call.source.chars ≠ [])
      (singleCall ⟨offset, '(' :: inner⟩) := by
  obtain ⟨ds, -, -, hds, -⟩ := Text.trim_cons (show Text.isBlank '(' = false by decide) inner
  have trimmed : (Fragment.mk offset ('(' :: inner)).trim.chars = '(' :: ds := hds
  have part := Fragment.trim_partOf ⟨offset, '(' :: inner⟩
  unfold singleCall
  split
  · simp [Sound, Reads]
  · next offset' c cs ht =>
      rw [ht] at trimmed part
      obtain ⟨rfl, rfl⟩ := List.cons.inj trimmed
      split
      · simp [Sound, Reads]
      · split
        · simp [Sound, Reads]
        · next name rest hn =>
            split
            · exact (unclosedCall_within _ _ _).mono part
            · next body hc =>
                rintro _ ⟨⟩
                refine ⟨Call.Within.mono ?_ part, List.cons_ne_nil _ _⟩
                rw [callName?_eq hn, takeCall_name hc]
                exact buildCall_within offset' name _ []
            · simp [Sound, Reads]

end Markup

namespace Lexer

theorem callLength_pos (n : Nesting) (c : Char) (cs : List Char) :
    0 < callLength n (c :: cs) := by
  rw [callLength]
  split <;> omega

/-- The text of a call starts with its parenthesis and is the start of the text at hand. -/
theorem callText?_eq {cs text : List Char} (h : callText? cs = some text) :
    ∃ inner, text = '(' :: inner ∧ '(' :: inner <+: cs := by
  unfold callText? at h
  split at h
  · next after =>
      split at h
      · split at h
        · simp only [Option.some.injEq] at h
          obtain ⟨n, hn⟩ := Nat.exists_eq_succ_of_ne_zero (callLength_pos .top '(' after).ne'
          rw [hn, List.take_succ_cons] at h
          refine ⟨after.take n, h.symm, ?_⟩
          exact (List.prefix_cons_inj '(').mpr (List.take_prefix n after)
        · simp at h
      · simp at h
  · simp at h

/-- A token leaves a suffix of what is behind its first character. If it is a call, it stands in the
text, as does a flaw, and if it is a value, it is no collection. -/
theorem next_sound (offset : Nat) (c : Char) (cs : List Char) :
    Sound (·.Within ⟨offset, c :: cs⟩)
      (fun found => found.2 <:+ cs ∧ found.1.All (·.Within ⟨offset, c :: cs⟩) Value.IsAtom)
      (next offset c cs) := by
  have plain : Sound (·.Within ⟨offset, c :: cs⟩)
      (fun found => found.2 <:+ cs ∧ found.1.All (·.Within ⟨offset, c :: cs⟩) Value.IsAtom)
      (plainToken offset c cs) :=
    (plainToken_plain offset c cs).mono (fun _ h => h) fun _ h =>
      ⟨h.2, h.1.mono (fun _ h => h.elim) fun _ h => h⟩
  unfold next
  split
  · next text ht =>
      obtain ⟨inner, rfl, start⟩ := callText?_eq ht
      have part := Fragment.prefix_partOf offset start
      have single := (Markup.singleCall_sound offset inner).mono (fun _ h => h.mono part)
        fun _ h => h
      refine single.bind fun found hfound => ?_
      cases found with
      | none => exact plain
      | some call =>
          obtain ⟨within, nonempty⟩ := hfound call rfl
          obtain ⟨first, source, hsource⟩ := List.exists_cons_of_ne_nil nonempty
          dsimp only
          rw [hsource]
          exact ⟨List.drop_suffix source.length cs, within.mono part⟩
  · exact plain

/-- Tokens stand in the text they are read from, and so does what cannot be read. -/
theorem tokensFrom_sound (n offset : Nat) (cs : List Char) :
    Sound (·.Within ⟨offset, cs⟩)
      (fun tokens => ∀ t ∈ tokens,
        t.All (Token.All (·.Within ⟨offset, cs⟩) Value.IsAtom) (·.Within ⟨offset, cs⟩))
      (tokensFrom n offset cs) := by
  induction n generalizing offset cs with
  | zero => simp [tokensFrom, Sound, Reads]
  | succ n ih =>
      have blanks : Fragment.PartOf ⟨offset + Text.byteLength (cs.takeWhile Text.isBlank),
          cs.dropWhile Text.isBlank⟩ ⟨offset, cs⟩ :=
        ⟨cs.takeWhile Text.isBlank, [], by simp, rfl⟩
      rw [tokensFrom]
      dsimp only
      split
      · simp [Sound, Reads]
      · next c rest hd =>
          rw [hd] at blanks
          have first := (next_sound (offset + Text.byteLength (cs.takeWhile Text.isBlank)) c rest).mono
            (fun _ h => h.mono blanks) fun _ h => h
          refine first.bind fun found hfound => ?_
          obtain ⟨token, after⟩ := found
          obtain ⟨suffix, htoken⟩ := hfound
          have later := Fragment.suffix_partOf
            (offset + Text.byteLength (cs.takeWhile Text.isBlank))
            (suffix.trans (List.suffix_cons c rest))
          have behind := later.trans blanks
          have more := (ih _ after).mono (fun _ h => h.mono behind) fun _ h => h
          refine more.bind fun others hothers => ?_
          refine List.forall_mem_cons.mpr
            ⟨⟨htoken.mono (fun _ h => h.mono blanks) fun _ h => h, ?_⟩, ?_⟩
          · -- the token ends where the rest starts
            refine Span.Within.mono ⟨Nat.le_refl _, Nat.le_add_right _ _, ?_⟩ blanks
            exact (Nat.le_add_right _ _).trans later.stop_le
          · exact fun t ht => (hothers t ht).mono
              (fun _ h => h.mono (fun _ h => h.mono behind) fun _ h => h) fun _ h => h.mono behind

/-- **The tokens of an expression stand in its text**, and so does what cannot be read. None of them
holds a collection. -/
theorem tokens_sound (f : Fragment) :
    Sound (·.Within f)
      (fun tokens => ∀ t ∈ tokens, t.All (Token.All (·.Within f) Value.IsAtom) (·.Within f))
      (tokens f) := by
  refine (tokensFrom_sound (f.chars.length + 1) f.offset f.chars).bind fun found hfound => ?_
  cases found with
  | nil => exact (Fragment.PartOf.refl f).span_within
  | cons _ _ => exact hfound

end Lexer

/-! ## The parser -/

theorem Path.isBrokenMarkup_of_parse {s : String} {cause : Cause} (h : Path.parse s = .error cause) :
    cause.isBrokenMarkup = false := by
  unfold Path.parse at h
  dsimp only at h
  split at h
  · split at h
    · cases h
    · cases h
      rfl
  · cases h
    rfl

namespace Parser

/-- The place of a flaw has a property, and the flaw is none of markup. -/
def Misread (placed : Span → Prop) (flaw : Flaw) : Prop :=
  placed flaw.span ∧ flaw.cause.isBrokenMarkup = false

/-- What is read has a property and leaves a suffix of the tokens; the place of a flaw has another
property. -/
def Takes {α : Type} (placed : Span → Prop) (P : α → Prop) (tokens : List Lexeme) :
    Except Flaw (Parsed α) → Prop :=
  Reads (Misread placed) fun read => P read.1 ∧ read.2 <:+ tokens

section

variable {α β : Type} {placed : Span → Prop} {P : α → Prop} {Q : β → Prop}
  {tokens rest : List Lexeme} {x : Except Flaw (Parsed α)}

/-- Reading something else behind what was read. -/
theorem Takes.bind {f : Parsed α → Except Flaw (Parsed β)} (h : Takes placed P tokens x)
    (hf : ∀ a rest, P a → rest <:+ tokens → Takes placed Q rest (f (a, rest))) :
    Takes placed Q tokens (x >>= f) :=
  Reads.bind h fun read hread => (hf read.1 read.2 hread.1 hread.2).mono (fun _ h => h)
    fun _ h => ⟨h.1, h.2.trans hread.2⟩

/-- Passing over tokens in front. -/
theorem Takes.skip (h : Takes placed P rest x) (hs : rest <:+ tokens) : Takes placed P tokens x :=
  h.mono (fun _ h => h) fun _ h => ⟨h.1, h.2.trans hs⟩

/-- Reading nothing more. -/
theorem Takes.done {a : α} (h : P a) : Takes placed P tokens (.ok (a, tokens)) :=
  ⟨h, List.suffix_refl _⟩

end

section

variable {good : Token → Prop} {placed : Span → Prop} {tokens rest : List Lexeme}

/-- What holds of all tokens holds of the last ones. -/
theorem all_suffix (h : ∀ t ∈ tokens, t.All good placed) (hs : rest <:+ tokens) :
    ∀ t ∈ rest, t.All good placed :=
  fun t ht => h t (hs.subset ht)

variable {stop : Nat} (hstop : placed (.at stop)) (ht : ∀ t ∈ tokens, t.All good placed)

include hstop ht

theorem expect_takes (m : Mark) (what : String) :
    Takes placed placed tokens (expect stop m what tokens) := by
  unfold expect
  split
  · next lexeme rest =>
      have first := (ht lexeme List.mem_cons_self).span
      split
      · exact ⟨first, List.suffix_cons _ _⟩
      · exact ⟨first, rfl⟩
  · split
    · exact ⟨hstop, rfl⟩
    · exact ⟨hstop, rfl⟩

end

/-- What the functions of the parser read when a number bounds their recursion. -/
structure TakesAll (good : Token → Prop) (placed : Span → Prop) (stop n : Nat) : Prop where
  expression : ∀ {least tokens}, (∀ t ∈ tokens, t.All good placed) →
    Takes placed (Expr.All good placed) tokens (expression stop n least tokens)
  operators : ∀ {least left tokens}, left.All good placed → (∀ t ∈ tokens, t.All good placed) →
    Takes placed (Expr.All good placed) tokens (operators stop n least left tokens)
  operand : ∀ {tokens}, (∀ t ∈ tokens, t.All good placed) →
    Takes placed (Expr.All good placed) tokens (operand stop n tokens)
  infixed : ∀ {left op place tokens}, left.All good placed → placed place →
    (∀ t ∈ tokens, t.All good placed) →
    Takes placed (Expr.All good placed) tokens (infixed stop n left op place tokens)
  each : ∀ {left tokens}, left.All good placed → (∀ t ∈ tokens, t.All good placed) →
    Takes placed (Expr.All good placed) tokens (each stop n left tokens)
  items : ∀ {tokens}, (∀ t ∈ tokens, t.All good placed) →
    Takes placed (fun es => ∀ e ∈ es, e.All good placed) tokens (items stop n tokens)
  entries : ∀ {tokens}, (∀ t ∈ tokens, t.All good placed) →
    Takes placed (fun es => ∀ e ∈ es, e.1.All good placed ∧ e.2.All good placed) tokens
      (entries stop n tokens)

section

variable {good : Token → Prop} {placed : Span → Prop} {stop n : Nat} {tokens : List Lexeme}
  {left : Expr} (ih : TakesAll good placed stop n) (hstop : placed (.at stop))
  (hjoin : ∀ {s t}, placed s → placed t → placed (s.join t))
  (ht : ∀ t ∈ tokens, t.All good placed)

include ih ht

theorem expression_takes (least : Nat) :
    Takes placed (Expr.All good placed) tokens (expression stop (n + 1) least tokens) := by
  rw [expression]
  refine (ih.operand ht).bind fun left rest hleft hs => ?_
  exact ih.operators hleft (all_suffix ht hs)

include hstop hjoin

theorem operators_takes (hleft : left.All good placed) (least : Nat) :
    Takes placed (Expr.All good placed) tokens (operators stop (n + 1) least left tokens) := by
  cases tokens with
  | nil => exact .done hleft
  | cons lexeme tokens =>
      have behind : tokens <:+ lexeme :: tokens := List.suffix_cons _ _
      obtain ⟨first, hrest⟩ := List.forall_mem_cons.mp ht
      rw [operators]
      split
      · split
        · exact .done hleft
        · refine Takes.skip ((ih.expression hrest).bind fun index rest hindex hs => ?_) behind
          have hrest := all_suffix hrest hs
          refine (expect_takes hstop hrest _ _).bind fun close rest hclose hs => ?_
          exact ih.operators (.index (hjoin hleft.span hclose) hleft hindex) (all_suffix hrest hs)
      · split
        · exact .done hleft
        · refine Takes.skip ((ih.each hleft hrest).bind fun whole rest hwhole hs => ?_) behind
          exact ih.operators hwhole (all_suffix hrest hs)
      · split
        · exact .done hleft
        · refine Takes.skip ((ih.infixed hleft first.span hrest).bind fun whole rest hwhole hs => ?_)
            behind
          exact ih.operators hwhole (all_suffix hrest hs)
      · exact .done hleft

theorem operand_takes : Takes placed (Expr.All good placed) tokens (operand stop (n + 1) tokens) := by
  cases tokens with
  | nil => exact ⟨hstop, rfl⟩
  | cons lexeme tokens =>
      have behind : tokens <:+ lexeme :: tokens := List.suffix_cons _ _
      obtain ⟨first, hrest⟩ := List.forall_mem_cons.mp ht
      have prefixed (op : Prefix) (power : Nat) :
          Takes placed (Expr.All good placed) (lexeme :: tokens) (do
            let found ← expression stop n power tokens
            return (Expr.unary (lexeme.span.join found.1.span) op found.1, found.2)) :=
        Takes.skip ((ih.expression hrest).bind fun x rest hx _ =>
          .done (.unary (hjoin first.span hx.span) hx)) behind
      rw [operand]
      dsimp only
      split
      · next hvalue => exact ⟨.literal first.span (hvalue ▸ first.token), behind⟩
      · split
        · exact ⟨.lookup first.span, behind⟩
        · next invalid => exact ⟨first.span, Path.isBrokenMarkup_of_parse invalid⟩
      · exact ⟨.lookup first.span, behind⟩
      · exact prefixed _ _
      · split
        · exact prefixed _ _
        · exact ⟨first.span, rfl⟩
      · refine Takes.skip ((ih.expression hrest).bind fun inner rest hinner hs => ?_) behind
        refine (expect_takes hstop (all_suffix hrest hs) _ _).bind fun close rest hclose _ => ?_
        exact .done (hinner.withSpan (hjoin first.span hclose))
      · refine Takes.skip ((ih.items hrest).bind fun items rest hitems hs => ?_) behind
        refine (expect_takes hstop (all_suffix hrest hs) _ _).bind fun close rest hclose _ => ?_
        exact .done (.list (hjoin first.span hclose) hitems)
      · refine Takes.skip ((ih.entries hrest).bind fun entries rest hentries hs => ?_) behind
        refine (expect_takes hstop (all_suffix hrest hs) _ _).bind fun close rest hclose _ => ?_
        exact .done (.mapping (hjoin first.span hclose) (fun e he => (hentries e he).1)
          fun e he => (hentries e he).2)
      · exact ⟨first.span, rfl⟩

omit hstop in
theorem infixed_takes (hleft : left.All good placed) (op : Operator) {place : Span}
    (hplace : placed place) :
    Takes placed (Expr.All good placed) tokens (infixed stop (n + 1) left op place tokens) := by
  unfold infixed
  split
  · next fold span tokens =>
      obtain ⟨first, hrest⟩ := List.forall_mem_cons.mp ht
      refine Takes.skip ((ih.expression hrest).bind fun seed rest hseed _ => ?_)
        (List.suffix_cons _ _)
      refine .done (.reduce (hjoin hleft.span hseed.span) (hjoin hplace first.span) hleft hseed ?_)
      -- the right side, read once more with its sign, starts at the same tokens
      intro x hx
      split at hx
      · next found ends hsigned =>
          split at hx
          · cases hx
            split at hsigned
            · cases again : expression stop n Operator.bar.binding.2
                  (⟨.operator fold, span⟩ :: tokens) with
              | ok read =>
                  rw [again] at hsigned
                  cases hsigned
                  exact ((ih.expression ht).of_ok again).1
              | error flaw =>
                  rw [again] at hsigned
                  cases hsigned
            · cases hsigned
          · cases hx
      · cases hx
  · refine (ih.expression ht).bind fun right rest hright hs => ?_
    dsimp only
    split
    · have hrest := all_suffix (all_suffix ht hs) (List.drop_suffix 1 rest)
      refine Takes.skip ((ih.expression hrest).bind fun third rest hthird _ => ?_)
        (List.drop_suffix 1 rest)
      exact .done (.ternary (hjoin hleft.span hthird.span) hplace hleft hright hthird)
    · exact .done (.binary (hjoin hleft.span hright.span) hplace hleft hright)

omit hstop in
theorem each_takes (hleft : left.All good placed) :
    Takes placed (Expr.All good placed) tokens (each stop (n + 1) left tokens) := by
  unfold each
  split
  · next c span tokens =>
      have first := ht _ List.mem_cons_self
      exact ⟨.eachCall (hjoin hleft.span first.span) hleft first.token, List.suffix_cons _ _⟩
  · refine (ih.expression ht).bind fun body rest hbody _ => ?_
    exact .done (.each (hjoin hleft.span hbody.span) hleft hbody)

omit hstop hjoin in
theorem items_takes : Takes placed (fun es => ∀ e ∈ es, e.All good placed) tokens
    (items stop (n + 1) tokens) := by
  rw [items]
  split
  · exact .done (by simp)
  · refine (ih.expression ht).bind fun item rest hitem hs => ?_
    dsimp only
    split
    · have hrest := all_suffix (all_suffix ht hs) (List.drop_suffix 1 rest)
      refine Takes.skip ((ih.items hrest).bind fun others rest hothers _ => ?_)
        (List.drop_suffix 1 rest)
      exact .done (List.forall_mem_cons.mpr ⟨hitem, hothers⟩)
    · exact .done (by simpa using hitem)

omit hjoin in
theorem entries_takes : Takes placed (fun es => ∀ e ∈ es, e.1.All good placed ∧ e.2.All good placed)
    tokens (entries stop (n + 1) tokens) := by
  rw [entries]
  split
  · exact .done (by simp)
  · refine (ih.expression ht).bind fun key rest hkey hs => ?_
    have ht := all_suffix ht hs
    refine (expect_takes hstop ht _ _).bind fun _ rest _ hs => ?_
    have ht := all_suffix ht hs
    refine (ih.expression ht).bind fun value rest hvalue hs => ?_
    have entry : ∀ e ∈ [(key, value)], e.1.All good placed ∧ e.2.All good placed := by
      simpa using ⟨hkey, hvalue⟩
    dsimp only
    split
    · have hrest := all_suffix (all_suffix ht hs) (List.drop_suffix 1 rest)
      refine Takes.skip ((ih.entries hrest).bind fun others rest hothers _ => ?_)
        (List.drop_suffix 1 rest)
      exact .done (List.forall_mem_cons.mpr ⟨⟨hkey, hvalue⟩, hothers⟩)
    · exact .done entry

end

/-- All functions of the parser only move what they are given, however deep they recurse. -/
theorem takesAll {good : Token → Prop} {placed : Span → Prop} {stop : Nat}
    (hstop : placed (.at stop)) (hjoin : ∀ {s t}, placed s → placed t → placed (s.join t)) :
    ∀ n, TakesAll good placed stop n
  | 0 => by
      constructor <;> intros <;> exact ⟨hstop, rfl⟩
  | n + 1 =>
      have ih := takesAll hstop hjoin n
      { expression := fun ht => expression_takes ih ht _
        operators := fun hleft ht => operators_takes ih hstop hjoin ht hleft _
        operand := fun ht => operand_takes ih hstop hjoin ht
        infixed := fun hleft hplace ht => infixed_takes ih hjoin ht hleft _ hplace
        each := fun hleft ht => each_takes ih hjoin ht hleft
        items := fun ht => items_takes ih ht
        entries := fun ht => entries_takes ih hstop ht }

theorem parse_reads {good : Token → Prop} {placed : Span → Prop} {tokens : List Lexeme} {whole : Span}
    (hwhole : placed whole) (hstop : placed (.at whole.stop))
    (hjoin : ∀ {s t}, placed s → placed t → placed (s.join t))
    (ht : ∀ t ∈ tokens, t.All good placed) :
    Reads (Misread placed) (Expr.All good placed) (parse tokens whole) := by
  unfold parse
  split
  · exact ⟨hwhole, rfl⟩
  · refine Reads.bind ((takesAll hstop hjoin _).expression ht) fun read hread => ?_
    obtain ⟨e, rest⟩ := read
    dsimp only
    split
    · exact hread.1
    · next extra _ =>
        have place := (ht extra (hread.2.subset List.mem_cons_self)).span
        split
        · split
          · exact ⟨place, rfl⟩
          · exact ⟨place, rfl⟩
        · exact ⟨place, rfl⟩

/-- **A tree holds nothing but calls, values and ranges of its tokens**, ranges joined. So does a
flaw. -/
theorem parse_sound {good : Token → Prop} {placed : Span → Prop} {tokens : List Lexeme} {whole : Span}
    (hwhole : placed whole) (hstop : placed (.at whole.stop))
    (hjoin : ∀ {s t}, placed s → placed t → placed (s.join t))
    (ht : ∀ t ∈ tokens, t.All good placed) :
    Sound placed (Expr.All good placed) (parse tokens whole) :=
  (parse_reads hwhole hstop hjoin ht).mono (fun _ h => h.1) fun _ h => h

end Parser

end Fiction
