import Fiction.Proofs.Decimal
import Fiction.Proofs.Expr.Bounds
import Fiction.Proofs.Integer
import Fiction.Proofs.Json.Quoted
import Fiction.Proofs.Value.Parts

/-!
# Fiction.Proofs.Expr.Literal

**The tokens of a value that is written as a literal.**

Two things are not read as they are written. An expression knows fewer escapes than a quoted text has
and keeps the others as they stand, and the magnitude of a negative integer is read before its sign,
so the least integer is out of range.

* `Value.tokens?` are the tokens that the literal of a value is cut into, and `Value.reread` is the
  value that they stand for.
* `Lexer.reads_literal` says that the lexer finds these tokens, or fails if there are none, whatever
  follows the literal inside a collection.
* `Value.Legible` are the values that come back: `Value.isSome_tokens?_iff` and
  `Value.reread_eq_self_iff` are its two halves.
-/

namespace Fiction

/-! ## Quoted texts -/

namespace Lexer

/-- A character that a quoted text in an expression can stand for. Of the controls these are the line
feed and the tab; the others are written with escapes that expressions do not know. -/
def isSpellable (c : Char) : Bool :=
  32 ≤ c.toNat || c = '\n' || c = '\t'

/-- What the quoted form of a character is read as: an escape that is not known is kept as it is
written. -/
def rereadChar (c : Char) : List Char :=
  if isSpellable c then [c] else Json.escape c

/-- What the quoted form of a text is read as. -/
def reread (cs : List Char) : List Char :=
  cs.flatMap rereadChar

/-- An escape that is not known is kept. -/
theorem quoted?_unknown {c : Char} (h : c ∉ ['n', 't', '"', '\\']) (cs : List Char) :
    quoted? ('\\' :: c :: cs) = (quoted? cs).map fun taken => ('\\' :: c :: taken.1, taken.2) := by
  simp only [List.mem_cons, List.not_mem_nil, or_false, not_or] at h
  obtain ⟨hn, ht, hquote, hslash⟩ := h
  rw [quoted?]
  · rfl
  all_goals assumption

/-- The escapes that are known stand for the characters they are written for, and the others are not
those of spellable characters. -/
theorem quoted?_letter {c d : Char} (h : (c, d) ∈ Json.letters) (cs : List Char) :
    quoted? ('\\' :: d :: cs) = (quoted? cs).map fun taken =>
      ((if isSpellable c then [c] else ['\\', d]) ++ taken.1, taken.2) := by
  simp only [Json.letters, List.mem_cons, Prod.mk.injEq, List.not_mem_nil, or_false] at h
  rcases h with h | h | h | h | h | h | h
  all_goals
    obtain ⟨rfl, rfl⟩ := h
    rfl

theorem quoted?_escaped {c : Char} {written : List Char} (h : Json.Escaped c written)
    (cs : List Char) :
    quoted? (written ++ cs) = (quoted? cs).map fun taken =>
      ((if isSpellable c then [c] else written) ++ taken.1, taken.2) := by
  cases h with
  | plain hc hquote hslash =>
      rw [List.singleton_append, quoted?_plain hquote hslash, ite_self]
      rfl
  | letter h => exact quoted?_letter h cs
  | code hc h =>
      have unspellable : isSpellable c = false := by
        have feed : c ≠ '\n' := fun e => h 'n' (by simp [e, Json.letters])
        have tab : c ≠ '\t' := fun e => h 't' (by simp [e, Json.letters])
        simp [isSpellable, feed, tab, hc]
      obtain ⟨hquote₁, hslash₁⟩ := Json.hexDigit_plain (d := c.toNat / 16) (by omega)
      obtain ⟨hquote₂, hslash₂⟩ := Json.hexDigit_plain (d := c.toNat % 16) (by omega)
      rw [unspellable]
      simp only [List.cons_append, List.nil_append]
      rw [quoted?_unknown (by decide), quoted?_plain (by decide) (by decide),
        quoted?_plain (by decide) (by decide), quoted?_plain hquote₁ hslash₁,
        quoted?_plain hquote₂ hslash₂, Option.map_map, Option.map_map, Option.map_map,
        Option.map_map]
      rfl

/-- **The quoted form of a text, as expressions read it.** -/
theorem quoted?_escapeAll (cs rest : List Char) :
    quoted? (Json.escapeAll cs ++ '"' :: rest) = some (reread cs, rest) := by
  induction cs with
  | nil => rfl
  | cons c cs ih =>
      rw [Json.escapeAll_cons, List.append_assoc, quoted?_escaped (Json.escape_escaped c), ih]
      rfl

theorem isSpellable_of_mem_rereadChar {c d : Char} (h : d ∈ rereadChar c) :
    isSpellable d = true := by
  unfold rereadChar at h
  split at h
  · next hc => exact List.mem_singleton.mp h ▸ hc
  · simp [isSpellable, Json.visible_of_mem_escape h]

/-- **What quoted texts are read as needs no escape that is not known.** -/
theorem isSpellable_of_mem_reread {cs : List Char} {d : Char} (h : d ∈ reread cs) :
    isSpellable d = true := by
  obtain ⟨c, -, hd⟩ := List.mem_flatMap.mp h
  exact isSpellable_of_mem_rereadChar hd

theorem reread_of_spellable {cs : List Char} (h : ∀ c ∈ cs, isSpellable c = true) :
    reread cs = cs := by
  induction cs with
  | nil => rfl
  | cons c cs ih =>
      rw [List.forall_mem_cons] at h
      have first : rereadChar c = [c] := if_pos h.1
      have rest := ih h.2
      unfold reread at rest ⊢
      rw [List.flatMap_cons, first, rest, List.singleton_append]

/-! ## Reading tokens -/

/-- The lexer cuts the text into these tokens, or fails if there are none, wherever it stands. -/
def Reads (cs : List Char) (tokens : Option (List Token)) : Prop :=
  ∀ offset, (tokensFrom (cs.length + 1) offset cs).toOption.map (·.map Lexeme.token) = tokens

variable {c : Char} {cs rest : List Char} {tokens : Option (List Token)}

theorem Reads.nil : Reads [] (some []) :=
  fun _ => rfl

theorem Reads.of_eq {cs' : List Char} {tokens' : Option (List Token)} (h : Reads cs tokens)
    (hcs : cs = cs') (htokens : tokens = tokens') : Reads cs' tokens' :=
  hcs ▸ htokens ▸ h

/-- Blanks are passed over. -/
theorem Reads.blank (hc : Text.isBlank c = true) (h : Reads cs tokens) : Reads (c :: cs) tokens := by
  intro offset
  rw [← h (offset + c.utf8Size), tokensFrom_bound (n := cs.length + 1) (m := cs.length + 2)
    (by omega) (by omega), List.length_cons, tokensFrom, tokensFrom,
    List.takeWhile_cons_of_pos hc, List.dropWhile_cons_of_pos hc, Text.byteLength_cons,
    Nat.add_assoc]

theorem Reads.blanks {blanks : List Char} (hblanks : ∀ c ∈ blanks, Text.isBlank c = true)
    (h : Reads cs tokens) : Reads (blanks ++ cs) tokens := by
  induction blanks with
  | nil => exact h
  | cons c blanks ih =>
      rw [List.forall_mem_cons] at hblanks
      exact (ih hblanks.2).blank hblanks.1

/-- A token is read, and then what follows it. -/
theorem Reads.token {token : Token} (hc : Text.isBlank c = false)
    (hnext : ∀ offset, next offset c cs = .ok (token, rest)) (h : Reads rest tokens) :
    Reads (c :: cs) (tokens.map (token :: ·)) := by
  intro offset
  have behind : rest.length ≤ cs.length :=
    ((next_sound _ _ _).of_ok (hnext offset)).1.length_le
  have later (stop : Nat) : tokensFrom (cs.length + 1) stop rest =
      tokensFrom (rest.length + 1) stop rest := tokensFrom_bound (by omega) (by omega)
  rw [List.length_cons, tokensFrom, List.takeWhile_cons_of_neg (by simp [hc]),
    List.dropWhile_cons_of_neg (by simp [hc])]
  dsimp only
  rw [hnext]
  change Option.map _ (Except.toOption (tokensFrom _ _ _ >>= _)) = _
  rw [later, ← h _]
  cases tokensFrom (rest.length + 1) _ rest with
  | ok more => rfl
  | error flaw => rfl

/-- Where no token can be read, the text has none. -/
theorem Reads.failed (hc : Text.isBlank c = false)
    (hnext : ∀ offset, ∃ flaw, next offset c cs = .error flaw) : Reads (c :: cs) none := by
  intro offset
  obtain ⟨flaw, hflaw⟩ := hnext (offset + 0)
  rw [List.length_cons, tokensFrom, List.takeWhile_cons_of_neg (by simp [hc]),
    List.dropWhile_cons_of_neg (by simp [hc])]
  dsimp only [Text.byteLength_nil]
  rw [hflaw]
  rfl

/-- What does not open a call is no call. -/
theorem next_of_ne (h : c ≠ '(') (offset : Nat) : next offset c cs = plainToken offset c cs := by
  have none : callText? (c :: cs) = none := by
    unfold callText?
    split
    · next found => exact absurd (List.cons.inj found).1 h
    · rfl
  rw [next, none]

/-- The marks of collections are read whatever follows them. -/
theorem Reads.mark (mark : Mark)
    (h : mark ∈ [.openBracket, .closeBracket, .openBrace, .closeBrace, .comma, .colon])
    (hrest : Reads rest tokens) : Reads (mark.char :: rest) (tokens.map (.mark mark :: ·)) := by
  simp only [List.mem_cons, List.not_mem_nil, or_false] at h
  rcases h with rfl | rfl | rfl | rfl | rfl | rfl
  all_goals exact hrest.token (by decide) fun offset => next_of_ne (by decide) offset

/-- A text between quotes is one token. -/
theorem Reads.quote (s : String) (hrest : Reads rest tokens) :
    Reads ((Json.quote s).toList ++ rest)
      (tokens.map (.value (.text (String.ofList (reread s.toList))) :: ·)) := by
  rw [Json.toList_quote, List.cons_append, List.append_assoc, List.singleton_append]
  refine hrest.token (by decide) fun offset => ?_
  rw [next_of_ne (by decide)]
  unfold plainToken
  rw [if_neg (by decide), if_pos rfl, quoted?_escapeAll]

/-- What may follow a literal inside a collection. -/
def Ends (rest : List Char) : Prop :=
  ∀ c ∈ rest.head?, c ∈ [',', ']', '}']

theorem Ends.nil : Ends [] :=
  nofun

theorem Ends.cons (h : c ∈ [',', ']', '}']) : Ends (c :: rest) := by
  rintro _ ⟨⟩
  exact h

/-- A character goes on a word because of itself, or because of the next one. -/
theorem continues_iff : continues c cs = true ↔
    (Text.isAlphanumeric c || c = '_') = true ∨ ∃ d rest, cs = d :: rest ∧
      ((c = '-' && Text.isPlainStart d) || (c = '.' && Text.isPlain d)) = true := by
  unfold continues
  rw [Bool.or_eq_true]
  cases cs <;> simp

/-- The characters of words. -/
def isWordChar (c : Char) : Bool :=
  Text.isAlphanumeric c || c = '_' || c = '-' || c = '.'

theorem isWordChar_of_continues (h : continues c cs = true) : isWordChar c = true := by
  rcases continues_iff.mp h with itself | ⟨d, rest, -, next⟩
  · simp only [isWordChar, itself, Bool.true_or]
  · simp only [isWordChar, Bool.or_eq_true, Bool.and_eq_true] at next ⊢
    tauto

/-- A word ends in front of a character that is in no word. -/
theorem takeWord_cons_of_not_isWordChar (h : isWordChar c = false) (rest : List Char) :
    takeWord (c :: rest) = ([], c :: rest) := by
  rw [takeWord, if_neg]
  intro goesOn
  rw [isWordChar_of_continues goesOn] at h
  cases h

theorem Ends.takeWord (h : Ends rest) : takeWord rest = ([], rest) := by
  have stops : ∀ c ∈ [',', ']', '}'], isWordChar c = false := List.all_iff_forall_prop.mp (by decide)
  cases rest with
  | nil => rfl
  | cons c rest => exact takeWord_cons_of_not_isWordChar (stops c (h c rfl)) rest

/-- Digits are a number up to what follows them, unless it is out of range. -/
theorem Ends.number (h : Ends rest) (offset n : Nat) :
    number offset (Decimal.digits n ++ rest) =
      ((Integer.fit? n).map fun n => (.value (.int n), rest)).elim
        (.error (.of (.invalidNumber (String.ofList (Decimal.digits n)))
          ⟨offset, offset + Text.byteLength (Decimal.digits n)⟩)) .ok := by
  have digits : ∀ c ∈ Decimal.digits n, c.isDigit = true :=
    fun c hc => Decimal.isDigit_of_mem_digits hc
  -- what follows starts with no digit, no point and no exponent
  have others : ∀ c ∈ [',', ']', '}'],
      c.isDigit = false ∧ c ≠ '.' ∧ (c = 'e' || c = 'E') = false :=
    List.all_iff_forall_prop.mp (by decide)
  obtain ⟨stop, whole, noFraction, noExponent⟩ : rest.dropWhile Char.isDigit = rest ∧
      rest.takeWhile Char.isDigit = [] ∧ fraction? rest = none ∧ exponent? rest = none := by
    cases rest with
    | nil => exact ⟨rfl, rfl, rfl, rfl⟩
    | cons c rest =>
        obtain ⟨digit, point, exponent⟩ := others c (h c rfl)
        refine ⟨List.dropWhile_cons_of_neg (by simp [digit]),
          List.takeWhile_cons_of_neg (by simp [digit]), ?_, ?_⟩
        · rw [fraction?]
          exact fun _ found => point (List.cons.inj found).1
        · simp only [exponent?, exponent, Bool.false_eq_true, if_false]
  unfold Lexer.number
  rw [List.takeWhile_append_of_pos digits, List.dropWhile_append_of_pos digits, whole, stop,
    List.append_nil]
  simp only [noFraction, noExponent, Decimal.ofDigits_digits]
  cases Integer.fit? n with
  | some m => rfl
  | none => rfl

/-- The digits of a number are one token. -/
theorem Reads.digits (n : Nat) (hrest : Reads rest tokens) (h : Ends rest) :
    Reads (Decimal.digits n ++ rest)
      ((Integer.fit? n).bind fun m => tokens.map (.value (.int m) :: ·)) := by
  obtain ⟨c, cs, hcs⟩ := List.exists_cons_of_ne_nil (Decimal.digits_ne_nil n)
  have digit : c.isDigit = true := Decimal.isDigit_of_mem_digits (hcs ▸ List.mem_cons_self)
  have noBlank : Text.isBlank c = false := Decimal.isBlank_of_isDigit digit
  have noCall : c ≠ '(' := by
    rintro rfl
    cases digit
  have read (offset : Nat) : next offset c (cs ++ rest) =
      number offset (Decimal.digits n ++ rest) := by
    rw [next_of_ne noCall, hcs, List.cons_append]
    unfold plainToken
    rw [if_pos digit]
  rw [hcs, List.cons_append]
  cases fits : Integer.fit? n with
  | some m => exact hrest.token noBlank fun offset => by rw [read, h.number, fits]; rfl
  | none => exact Reads.failed noBlank fun offset => ⟨_, by rw [read, h.number, fits]; rfl⟩

theorem takeWord_append {word : List Char} (hword : ∀ c ∈ word, Text.isAlphanumeric c = true)
    (h : Ends rest) : takeWord (word ++ rest) = (word, rest) := by
  induction word with
  | nil => exact h.takeWord
  | cons c word ih =>
      rw [List.forall_mem_cons] at hword
      have more : continues c (word ++ rest) = true := by simp [continues, hword.1]
      rw [List.cons_append, takeWord, if_pos more, ih hword.2]

/-- The words that are literals are one token. -/
theorem Reads.word (word : String) (hword : word ∈ ["null", "true", "false"])
    (hrest : Reads rest tokens) (h : Ends rest) :
    Reads (word.toList ++ rest) (tokens.map (wordToken word.toList :: ·)) := by
  obtain ⟨c, cs, hcs, letters, noBlank, front⟩ : ∃ c cs, word.toList = c :: cs ∧
      (∀ c ∈ word.toList, Text.isAlphanumeric c = true) ∧ Text.isBlank c = false ∧
      c ≠ '(' ∧ c.isDigit = false ∧ c ≠ '"' ∧ Text.isLetter c = true := by
    simp only [List.mem_cons, List.not_mem_nil, or_false] at hword
    rcases hword with rfl | rfl | rfl
    all_goals exact ⟨_, _, rfl, List.all_eq_true.mp (by decide), by decide⟩
  obtain ⟨noCall, noDigit, noQuote, letter⟩ := front
  have taken := takeWord_append letters h
  rw [hcs, List.cons_append] at taken ⊢
  refine hrest.token noBlank fun offset => ?_
  rw [next_of_ne noCall]
  unfold plainToken
  rw [if_neg (by simp [noDigit]), if_neg noQuote, if_pos (by simp [letter]), taken]

end Lexer

/-! ## Literals -/

namespace Value

mutual

/-- The value that a literal is read as. -/
def reread : Value → Value
  | null => null
  | bool b => bool b
  | int n => int n
  | real x => real x
  | text s => text (String.ofList (Lexer.reread s.toList))
  | list items => list (rereadItems items)
  | mapping entries => mapping (Mapping.ofEntries (rereadEntries entries))

/-- The values that the items of a list are read as. -/
def rereadItems : List Value → List Value
  | [] => []
  | v :: rest => v.reread :: rereadItems rest

/-- The entries that those of a mapping are read as. -/
def rereadEntries : List (String × Value) → List (String × Value)
  | [] => []
  | (k, v) :: rest => (String.ofList (Lexer.reread k.toList), v.reread) :: rereadEntries rest

end

mutual

/-- The tokens of a literal. The magnitude of a negative integer is a token of its own, which the
least integer has none of. -/
def tokens? : Value → Option (List Token)
  | int n =>
      if n.toInt < 0 then (Integer.neg? n).map fun m => [.operator .minus, .value (.int m)]
      else some [.value (.int n)]
  | list items => (tokensOfItems? items).map fun inner =>
      .mark .openBracket :: inner ++ [.mark .closeBracket]
  | mapping entries => (tokensOfEntries? entries).map fun inner =>
      .mark .openBrace :: inner ++ [.mark .closeBrace]
  | text s => some [.value (.text (String.ofList (Lexer.reread s.toList)))]
  | null => some [.value .null]
  | bool b => some [.value (.bool b)]
  | real _ => none

/-- The tokens of the items of a list. -/
def tokensOfItems? : List Value → Option (List Token)
  | [] => some []
  | [v] => v.tokens?
  | v :: rest => do
      let first ← v.tokens?
      let rest ← tokensOfItems? rest
      return first ++ .mark .comma :: rest

/-- The tokens of the entries of a mapping. -/
def tokensOfEntries? : List (String × Value) → Option (List Token)
  | [] => some []
  | [(k, v)] => do
      let value ← v.tokens?
      return .value (.text (String.ofList (Lexer.reread k.toList))) :: .mark .colon :: value
  | (k, v) :: rest => do
      let value ← v.tokens?
      let rest ← tokensOfEntries? rest
      return .value (.text (String.ofList (Lexer.reread k.toList))) :: .mark .colon ::
        (value ++ .mark .comma :: rest)

end

theorem tokensOfItems?_cons_cons (v w : Value) (items : List Value) :
    tokensOfItems? (v :: w :: items) = do
      let first ← v.tokens?
      let rest ← tokensOfItems? (w :: items)
      return first ++ .mark .comma :: rest := by
  rw [tokensOfItems?]
  exact nofun

theorem tokensOfEntries?_cons_cons (key : String) (v : Value) (next : String × Value)
    (entries : List (String × Value)) :
    tokensOfEntries? ((key, v) :: next :: entries) = do
      let value ← v.tokens?
      let rest ← tokensOfEntries? (next :: entries)
      return .value (.text (String.ofList (Lexer.reread key.toList))) :: .mark .colon ::
        (value ++ .mark .comma :: rest) := by
  rw [tokensOfEntries?]
  exact nofun

theorem exists_of_tokensOfItems? {v w : Value} {items : List Value} {ts : List Token}
    (h : tokensOfItems? (v :: w :: items) = some ts) : ∃ front back, v.tokens? = some front ∧
      tokensOfItems? (w :: items) = some back ∧ front ++ .mark .comma :: back = ts := by
  rw [tokensOfItems?_cons_cons] at h
  obtain ⟨front, hfront, rest⟩ := Option.bind_eq_some_iff.mp h
  obtain ⟨back, hback, whole⟩ := Option.bind_eq_some_iff.mp rest
  exact ⟨front, back, hfront, hback, Option.some.inj whole⟩

theorem exists_of_tokensOfEntries? {key : String} {v : Value} {next : String × Value}
    {entries : List (String × Value)} {ts : List Token}
    (h : tokensOfEntries? ((key, v) :: next :: entries) = some ts) :
    ∃ front back, v.tokens? = some front ∧ tokensOfEntries? (next :: entries) = some back ∧
      .value (.text (String.ofList (Lexer.reread key.toList))) :: .mark .colon ::
        (front ++ .mark .comma :: back) = ts := by
  rw [tokensOfEntries?_cons_cons] at h
  obtain ⟨front, hfront, rest⟩ := Option.bind_eq_some_iff.mp h
  obtain ⟨back, hback, whole⟩ := Option.bind_eq_some_iff.mp rest
  exact ⟨front, back, hfront, hback, Option.some.inj whole⟩

theorem exists_of_tokensOfEntry? {key : String} {v : Value} {ts : List Token}
    (h : tokensOfEntries? [(key, v)] = some ts) : ∃ front, v.tokens? = some front ∧
      .value (.text (String.ofList (Lexer.reread key.toList))) :: .mark .colon :: front = ts := by
  rw [tokensOfEntries?] at h
  obtain ⟨front, hfront, whole⟩ := Option.bind_eq_some_iff.mp h
  exact ⟨front, hfront, Option.some.inj whole⟩

theorem call?_of_mem_tokensOfItems? {items : List Value}
    (ih : ∀ v ∈ items, ∀ ts, v.tokens? = some ts → ∀ t ∈ ts, t.call? = none) {ts : List Token}
    (h : tokensOfItems? items = some ts) : ∀ t ∈ ts, t.call? = none := by
  induction items generalizing ts with
  | nil =>
      cases h
      exact List.forall_mem_nil _
  | cons v items more =>
      rw [List.forall_mem_cons] at ih
      cases items with
      | nil => exact ih.1 ts h
      | cons w items =>
          obtain ⟨front, back, hfront, hback, rfl⟩ := exists_of_tokensOfItems? h
          rw [List.forall_mem_append, List.forall_mem_cons]
          exact ⟨ih.1 front hfront, rfl, more ih.2 hback⟩

theorem call?_of_mem_tokensOfEntries? {entries : List (String × Value)}
    (ih : ∀ entry ∈ entries, ∀ ts, entry.2.tokens? = some ts → ∀ t ∈ ts, t.call? = none)
    {ts : List Token} (h : tokensOfEntries? entries = some ts) : ∀ t ∈ ts, t.call? = none := by
  induction entries generalizing ts with
  | nil =>
      cases h
      exact List.forall_mem_nil _
  | cons entry entries more =>
      obtain ⟨key, v⟩ := entry
      rw [List.forall_mem_cons] at ih
      cases entries with
      | nil =>
          obtain ⟨front, hfront, rfl⟩ := exists_of_tokensOfEntry? h
          rw [List.forall_mem_cons, List.forall_mem_cons]
          exact ⟨rfl, rfl, ih.1 front hfront⟩
      | cons next entries =>
          obtain ⟨front, back, hfront, hback, rfl⟩ := exists_of_tokensOfEntries? h
          rw [List.forall_mem_cons, List.forall_mem_cons, List.forall_mem_append,
            List.forall_mem_cons]
          exact ⟨rfl, rfl, ih.1 front hfront, rfl, more ih.2 hback⟩

/-- No token of a literal is a call. -/
theorem call?_of_mem_tokens? {v : Value} {ts : List Token} (h : v.tokens? = some ts) :
    ∀ t ∈ ts, t.call? = none := by
  have bracketed {first last : Mark} {inner : List Token} (h : ∀ t ∈ inner, t.call? = none) :
      ∀ t ∈ .mark first :: inner ++ [.mark last], t.call? = none := by
    rw [List.cons_append, List.forall_mem_cons, List.forall_mem_append, List.forall_mem_singleton]
    exact ⟨rfl, h, rfl⟩
  induction v generalizing ts with
  | null | bool _ | text _ =>
      cases h
      exact List.forall_mem_singleton.mpr rfl
  | real _ => cases h
  | int n =>
      rw [tokens?] at h
      split at h
      · obtain ⟨m, -, rfl⟩ := Option.map_eq_some_iff.mp h
        simp [Token.call?]
      · cases h
        exact List.forall_mem_singleton.mpr rfl
  | list items ih =>
      obtain ⟨inner, hinner, rfl⟩ := Option.map_eq_some_iff.mp h
      exact bracketed (call?_of_mem_tokensOfItems? (fun v hv ts => ih v hv) hinner)
  | mapping entries ih =>
      obtain ⟨inner, hinner, rfl⟩ := Option.map_eq_some_iff.mp h
      exact bracketed (call?_of_mem_tokensOfEntries? (fun entry hentry ts => ih entry hentry) hinner)

end Value

namespace Lexer

variable {rest : List Char} {tokens : Option (List Token)}

/-- A literal is read as its tokens, and then what follows it. -/
def ReadsLiteral (v : Value) : Prop :=
  ∀ {rest tokens}, Ends rest → Reads rest tokens →
    Reads (v.literal.toList ++ rest) (v.tokens?.bind fun ts => tokens.map (ts ++ ·))

theorem readsLiteral_int (n : Int64) : ReadsLiteral (.int n) := by
  intro rest tokens ends hrest
  unfold Value.literal Value.tokens?
  cases h : n.toInt with
  | ofNat k =>
      have fits : Integer.fit? (Int.ofNat k) = some n := h ▸ Integer.fit?_toInt n
      refine (hrest.digits k ends).of_eq ?_ ?_
      · rw [Decimal.ofInt, String.toList_ofList]
      · rw [Int.ofNat_eq_natCast, if_neg (Int.not_lt.mpr (Int.natCast_nonneg k))]
        exact congrArg (Option.bind · _) fits
  | negSucc k =>
      have fits : Integer.fit? (k + 1 : Nat) = Integer.neg? n := by
        rw [Integer.neg?, h, Int.neg_negSucc]
      have sign (offset : Nat) (cs : List Char) : next offset '-' cs = .ok (.operator .minus, cs) :=
        next_of_ne (by decide) offset
      refine ((hrest.digits (k + 1) ends).token (by decide) (sign · _)).of_eq ?_ ?_
      · simp [Decimal.ofInt]
      · rw [fits, if_pos (Int.negSucc_lt_zero k)]
        cases Integer.neg? n with
        | none => rfl
        | some m => cases tokens <;> rfl

theorem readsLiteral_items {items : List Value} (ih : ∀ v ∈ items, ReadsLiteral v)
    (h : Ends rest) (hrest : Reads rest tokens) :
    Reads ((Value.literalItems items).toList ++ rest)
      ((Value.tokensOfItems? items).bind fun ts => tokens.map (ts ++ ·)) := by
  induction items with
  | nil => exact hrest.of_eq rfl (by simp [Value.tokensOfItems?])
  | cons v items more =>
      rw [List.forall_mem_cons] at ih
      cases items with
      | nil => exact ih.1 h hrest
      | cons w items =>
          have behind := ((more ih.2).blank (c := ' ') (by decide)).mark .comma (by decide)
          refine (ih.1 (Ends.cons (by decide)) behind).of_eq ?_ ?_
          · simp [Value.literalItems, Mark.char]
          · rw [Value.tokensOfItems?_cons_cons]
            cases v.tokens? <;> cases Value.tokensOfItems? (w :: items) <;> cases tokens <;> simp

theorem readsLiteral_entries {entries : List (String × Value)}
    (ih : ∀ entry ∈ entries, ReadsLiteral entry.2) (h : Ends rest) (hrest : Reads rest tokens) :
    Reads ((Value.literalEntries entries).toList ++ rest)
      ((Value.tokensOfEntries? entries).bind fun ts => tokens.map (ts ++ ·)) := by
  -- the key and the colon in front of whatever a value is read as
  have keyed (key : String) {cs : List Char} {later : Option (List Token)} (hcs : Reads cs later) :
      Reads ((Json.quote key).toList ++ ':' :: ' ' :: cs) (later.map fun ts =>
        .value (.text (String.ofList (reread key.toList))) :: .mark .colon :: ts) := by
    refine (((hcs.blank (c := ' ') (by decide)).mark .colon (by decide)).quote key).of_eq
      ?_ ?_
    · rw [Mark.char]
    · rw [Option.map_map]
      rfl
  induction entries with
  | nil => exact hrest.of_eq rfl (by simp [Value.tokensOfEntries?])
  | cons entry entries more =>
      obtain ⟨key, v⟩ := entry
      rw [List.forall_mem_cons] at ih
      cases entries with
      | nil =>
          refine (keyed key (ih.1 h hrest)).of_eq ?_ ?_
          · simp [Value.literalEntries]
          · rw [Value.tokensOfEntries?]
            cases v.tokens? <;> cases tokens <;> simp
      | cons next entries =>
          have behind := ((more ih.2).blank (c := ' ') (by decide)).mark .comma (by decide)
          refine (keyed key (ih.1 (Ends.cons (by decide)) behind)).of_eq ?_ ?_
          · simp [Value.literalEntries, Mark.char]
          · rw [Value.tokensOfEntries?_cons_cons]
            cases v.tokens? <;> cases Value.tokensOfEntries? (next :: entries) <;> cases tokens <;>
              simp

/-- **The lexer finds the tokens of a literal.** -/
theorem readsLiteral {v : Value} (hv : v.RealFree) : ReadsLiteral v := by
  induction v with
  | null =>
      intro rest tokens ends hrest
      exact hrest.word "null" (by decide) ends
  | bool b =>
      intro rest tokens ends hrest
      cases b with
      | true => exact hrest.word "true" (by decide) ends
      | false => exact hrest.word "false" (by decide) ends
  | int n => exact readsLiteral_int n
  | real x => exact absurd rfl (hv (.real x) (by simp [Value.parts]))
  | text s =>
      intro rest tokens ends hrest
      exact hrest.quote s
  | list items ih =>
      intro rest tokens ends hrest
      have inner := (Value.forall_parts_list.mp hv).2
      refine ((readsLiteral_items (fun v hmem => ih v hmem (inner v hmem))
        (Ends.cons (by decide)) (hrest.mark .closeBracket (by decide))).mark
        .openBracket (by decide)).of_eq ?_ ?_
      · simp [Value.literal, Mark.char]
      · rw [Value.tokens?]
        cases Value.tokensOfItems? items <;> cases tokens <;> simp
  | mapping entries ih =>
      intro rest tokens ends hrest
      have inner := (Value.forall_parts_mapping.mp hv).2
      refine ((readsLiteral_entries (fun entry hmem => ih entry hmem (inner entry hmem))
        (Ends.cons (by decide)) (hrest.mark .closeBrace (by decide))).mark
        .openBrace (by decide)).of_eq ?_ ?_
      · simp [Value.literal, Mark.char]
      · rw [Value.tokens?]
        cases Value.tokensOfEntries? entries <;> cases tokens <;> simp

end Lexer

/-! ## Values that come back -/

namespace Value

/-- An integer whose opposite is one too. -/
def hasOpposite : Value → Bool
  | int n => n.toInt ≠ Integer.least
  | null | bool _ | real _ | text _ | list _ | mapping _ => true

/-- The value has no text or key with a character that expressions cannot spell. -/
def isSpellable : Value → Bool
  | text s => s.toList.all Lexer.isSpellable
  | mapping entries => entries.all fun entry => entry.1.toList.all Lexer.isSpellable
  | null | bool _ | int _ | real _ | list _ => true

/-- Values whose literals are read as they were written: no part is the least integer, and no text
or key has a control other than the line feed and the tab. -/
def Legible (v : Value) : Prop :=
  ∀ part ∈ v.parts, part.hasOpposite = true ∧ part.isSpellable = true

instance (v : Value) : Decidable v.Legible :=
  inferInstanceAs (Decidable (∀ part ∈ v.parts, part.hasOpposite = true ∧ part.isSpellable = true))

theorem isSome_tokensOfItems?_iff (items : List Value) :
    (tokensOfItems? items).isSome = true ↔ ∀ v ∈ items, v.tokens?.isSome = true := by
  induction items with
  | nil => simp [tokensOfItems?]
  | cons v items ih =>
      cases items with
      | nil => simp [tokensOfItems?]
      | cons w items =>
          rw [tokensOfItems?_cons_cons, List.forall_mem_cons, ← ih]
          cases v.tokens? <;> cases tokensOfItems? (w :: items) <;> simp

theorem isSome_tokensOfEntries?_iff (entries : List (String × Value)) :
    (tokensOfEntries? entries).isSome = true ↔ ∀ entry ∈ entries, entry.2.tokens?.isSome = true := by
  induction entries with
  | nil => simp [tokensOfEntries?]
  | cons entry entries ih =>
      obtain ⟨key, v⟩ := entry
      cases entries with
      | nil =>
          rw [tokensOfEntries?, List.forall_mem_singleton]
          cases v.tokens? <;> rfl
      | cons next entries =>
          rw [tokensOfEntries?_cons_cons, List.forall_mem_cons, ← ih]
          cases v.tokens? <;> cases tokensOfEntries? (next :: entries) <;> simp

/-- **Literals have tokens unless the least integer is among them.** -/
theorem isSome_tokens?_iff {v : Value} (hv : v.RealFree) :
    v.tokens?.isSome = true ↔ ∀ part ∈ v.parts, part.hasOpposite = true := by
  induction v with
  | null | bool _ | text _ => simp [tokens?, parts, hasOpposite]
  | int n =>
      rw [parts, List.forall_mem_singleton, hasOpposite, decide_eq_true_iff,
        ← Integer.isSome_neg?_iff, tokens?]
      split
      · rw [Option.isSome_map]
      · next h =>
          have opposite : (Integer.neg? n).isSome = true := by
            rw [Integer.isSome_neg?_iff]
            unfold Integer.least
            omega
          simp [opposite]
  | real x => exact absurd rfl (hv (.real x) (by simp [parts]))
  | list items ih =>
      have inner := (forall_parts_list.mp hv).2
      rw [tokens?, Option.isSome_map, isSome_tokensOfItems?_iff, forall_parts_list]
      simp only [hasOpposite, true_and]
      exact forall₂_congr fun v hmem => ih v hmem (inner v hmem)
  | mapping entries ih =>
      have inner := (forall_parts_mapping.mp hv).2
      rw [tokens?, Option.isSome_map, isSome_tokensOfEntries?_iff, forall_parts_mapping]
      simp only [hasOpposite, true_and]
      exact forall₂_congr fun entry hmem => ih entry hmem (inner entry hmem)

theorem rereadItems_eq_map (items : List Value) : rereadItems items = items.map reread := by
  induction items with
  | nil => rfl
  | cons v items ih => rw [rereadItems, ih, List.map_cons]

theorem rereadEntries_eq_map (entries : List (String × Value)) : rereadEntries entries =
    entries.map fun entry => (String.ofList (Lexer.reread entry.1.toList), entry.2.reread) := by
  induction entries with
  | nil => rfl
  | cons entry entries ih => rw [rereadEntries, ih, List.map_cons]

/-- What a literal is read as can be spelled. -/
theorem isSpellable_of_mem_parts_reread (v : Value) :
    ∀ part ∈ v.reread.parts, part.isSpellable = true := by
  have spelled (s : String) :
      (String.ofList (Lexer.reread s.toList)).toList.all Lexer.isSpellable = true := by
    rw [String.toList_ofList, List.all_eq_true]
    exact fun c hc => Lexer.isSpellable_of_mem_reread hc
  induction v with
  | null | bool _ | int _ | real _ => simp [reread, parts, isSpellable]
  | text s => simpa [reread, parts, isSpellable] using spelled s
  | list items ih =>
      rw [reread, rereadItems_eq_map, forall_parts_list]
      refine ⟨rfl, fun v hv => ?_⟩
      obtain ⟨w, hw, rfl⟩ := List.mem_map.mp hv
      exact ih w hw
  | mapping entries ih =>
      rw [reread, rereadEntries_eq_map, forall_parts_mapping]
      have source {entry : String × Value} (h : entry ∈ Mapping.ofEntries (entries.map fun entry =>
          (String.ofList (Lexer.reread entry.1.toList), entry.2.reread))) :
          ∃ before ∈ entries,
            (String.ofList (Lexer.reread before.1.toList), before.2.reread) = entry := by
        have hmem := Mapping.mem_of_mem_ofEntries h
        rwa [List.mem_map] at hmem
      rw [isSpellable, List.all_eq_true]
      constructor
      · intro entry hentry
        obtain ⟨before, -, rfl⟩ := source hentry
        exact spelled before.1
      · intro entry hentry
        obtain ⟨before, hmem, rfl⟩ := source hentry
        exact ih before hmem

/-- Texts that can be spelled are read as they were. -/
theorem reread_of_isSpellable {v : Value} (hkeys : v.Keyed)
    (h : ∀ part ∈ v.parts, part.isSpellable = true) : v.reread = v := by
  have same {s : String} (hs : s.toList.all Lexer.isSpellable = true) :
      String.ofList (Lexer.reread s.toList) = s := by
    rw [Lexer.reread_of_spellable (List.all_eq_true.mp hs), String.ofList_toList]
  induction v with
  | null | bool _ | int _ | real _ => rfl
  | text s => rw [reread, same (h (.text s) (by simp [parts]))]
  | list items ih =>
      have innerKeys := (forall_parts_list.mp hkeys).2
      have inner := (forall_parts_list.mp h).2
      have unchanged : items.map reread = items.map id :=
        List.map_congr_left fun v hv => ih v hv (innerKeys v hv) (inner v hv)
      rw [reread, rereadItems_eq_map, unchanged, List.map_id]
  | mapping entries ih =>
      obtain ⟨distinct, innerKeys⟩ := forall_parts_mapping.mp hkeys
      obtain ⟨spelled, inner⟩ := forall_parts_mapping.mp h
      have unchanged : (entries.map fun entry =>
          (String.ofList (Lexer.reread entry.1.toList), entry.2.reread)) = entries.map id := by
        refine List.map_congr_left fun entry hmem => ?_
        have key := same (List.all_eq_true.mp spelled entry hmem)
        have value := ih entry hmem (innerKeys entry hmem) (inner entry hmem)
        rw [key, value, id]
      have whole : Mapping.ofEntries entries = entries := Mapping.ofEntries_of_distinct distinct
      rw [reread, rereadEntries_eq_map, unchanged, List.map_id, whole]

/-- **A value is read as it was written if and only if its texts can be spelled.** -/
theorem reread_eq_self_iff {v : Value} (hkeys : v.Keyed) :
    v.reread = v ↔ ∀ part ∈ v.parts, part.isSpellable = true :=
  ⟨fun h => h ▸ isSpellable_of_mem_parts_reread v, reread_of_isSpellable hkeys⟩

end Value

end Fiction
