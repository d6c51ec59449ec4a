import Fiction.Json.Printer
import Fiction.Json.Reader
import Fiction.Proofs.Decimal
import Fiction.Proofs.Json.Quoted

/-!
# Fiction.Proofs.Json.RoundTrip

**Data trees are read as they are written.** Trees without reals are meant, since a real is written
by its shortest digits and read by rounding.

* `Written` relates a tree to its texts, with blanks where they may stand. The printers only differ in
  their blanks, so `written_compact` and `written_prettyAt` say that both print such texts.
* `readTree_written` reads such a text, whatever follows it, given room for the levels of the tree.
* `depth_le_of_parse?`: a tree that was read has no more levels than can be read.
-/

namespace Fiction.Json

/-! ## Trees -/

/-- Induction over data trees. -/
@[induction_eliminator]
theorem induction {motive : Json → Prop} (null : motive .null) (bool : ∀ b, motive (.bool b))
    (int : ∀ n, motive (.int n)) (real : ∀ x, motive (.real x)) (text : ∀ s, motive (.text s))
    (array : ∀ items, (∀ j ∈ items, motive j) → motive (.array items))
    (object : ∀ members, (∀ member ∈ members, motive member.2) → motive (.object members))
    (j : Json) : motive j :=
  @Json.rec motive (fun items => ∀ j ∈ items, motive j)
    (fun members => ∀ member ∈ members, motive member.2) (fun member => motive member.2)
    null bool int real text array object
    (fun _ h => absurd h List.not_mem_nil)
    (fun _ _ first rest _ h => (List.mem_cons.mp h).elim (· ▸ first) (rest _))
    (fun _ h => absurd h List.not_mem_nil)
    (fun _ _ first rest _ h => (List.mem_cons.mp h).elim (· ▸ first) (rest _))
    (fun _ _ h => h) j

mutual

/-- How deep arrays and objects are nested. -/
def depth : Json → Nat
  | array items => depthOfItems items + 1
  | object members => depthOfMembers members + 1
  | null | bool _ | int _ | real _ | text _ => 0

/-- How deep the elements of an array are nested. -/
def depthOfItems : List Json → Nat
  | [] => 0
  | j :: rest => max j.depth (depthOfItems rest)

/-- How deep the members of an object are nested. -/
def depthOfMembers : List (String × Json) → Nat
  | [] => 0
  | (_, j) :: rest => max j.depth (depthOfMembers rest)

end

theorem depth_array_le_iff {items : List Json} {n : Nat} :
    (array items).depth ≤ n + 1 ↔ ∀ j ∈ items, j.depth ≤ n := by
  rw [depth, Nat.add_le_add_iff_right]
  induction items with
  | nil => simp [depthOfItems]
  | cons j items ih => rw [depthOfItems, Nat.max_le, ih, List.forall_mem_cons]

theorem depth_object_le_iff {members : List (String × Json)} {n : Nat} :
    (object members).depth ≤ n + 1 ↔ ∀ member ∈ members, member.2.depth ≤ n := by
  rw [depth, Nat.add_le_add_iff_right]
  induction members with
  | nil => simp [depthOfMembers]
  | cons member members ih => rw [depthOfMembers, Nat.max_le, ih, List.forall_mem_cons]

mutual

/-- Whether no number of the tree is a real. -/
def isRealFree : Json → Bool
  | real _ => false
  | array items => itemsRealFree items
  | object members => membersRealFree members
  | null | bool _ | int _ | text _ => true

/-- Whether no element of an array has a real. -/
def itemsRealFree : List Json → Bool
  | [] => true
  | j :: rest => j.isRealFree && itemsRealFree rest

/-- Whether no member of an object has a real. -/
def membersRealFree : List (String × Json) → Bool
  | [] => true
  | (_, j) :: rest => j.isRealFree && membersRealFree rest

end

theorem isRealFree_array_iff {items : List Json} :
    (array items).isRealFree = true ↔ ∀ j ∈ items, j.isRealFree = true := by
  rw [isRealFree]
  induction items with
  | nil => simp [itemsRealFree]
  | cons j items ih => rw [itemsRealFree, Bool.and_eq_true, ih, List.forall_mem_cons]

theorem isRealFree_object_iff {members : List (String × Json)} :
    (object members).isRealFree = true ↔ ∀ member ∈ members, member.2.isRealFree = true := by
  rw [isRealFree]
  induction members with
  | nil => simp [membersRealFree]
  | cons member members ih => rw [membersRealFree, Bool.and_eq_true, ih, List.forall_mem_cons]

/-! ## Texts -/

theorem readText_plain {c : Char} (visible : 32 ≤ c.toNat) (hquote : c ≠ '"') (hslash : c ≠ '\\')
    (cs : List Char) :
    readText (c :: cs) = (readText cs).map fun taken => (c :: taken.1, taken.2) := by
  rw [readText]
  · rw [if_neg]
    simp only [hslash, decide_false, Bool.or_false, decide_eq_true_eq]
    omega
  · exact fun h => hquote h
  · exact fun a b c d rest h _ => hslash h
  · exact fun c rest h _ => hslash h

theorem readText_letter {c d : Char} (h : (c, d) ∈ letters) (cs : List Char) :
    readText ('\\' :: d :: cs) = (readText cs).map fun taken => (c :: taken.1, taken.2) := by
  have known : ∀ pair ∈ letters, pair.2 ≠ 'u' ∧ unescape? pair.2 = some pair.1 := by decide
  obtain ⟨unit, found⟩ := known (c, d) h
  rw [readText]
  · rw [found]
  · exact fun a b c d rest h _ => unit h

theorem hexValue?_hexDigit {d : Nat} (h : d < 16) : hexValue? (hexDigit d) = some d := by
  have all : ∀ d : Fin 16, hexValue? (hexDigit d) = some d := by decide
  exact all ⟨d, h⟩

theorem readText_code {c : Char} (h : c.toNat < 32) (cs : List Char) :
    readText ('\\' :: 'u' :: '0' :: '0' :: hexDigit (c.toNat / 16) :: hexDigit (c.toNat % 16) :: cs) =
      (readText cs).map fun taken => (c :: taken.1, taken.2) := by
  have unit : unit? '0' '0' (hexDigit (c.toNat / 16)) (hexDigit (c.toNat % 16)) = some c.toNat := by
    have zero : hexValue? '0' = some 0 := rfl
    have value : (0 * 16 + 0) * 256 + (c.toNat / 16 * 16 + c.toNat % 16) = c.toNat := by omega
    rw [unit?, zero, hexValue?_hexDigit (by omega), hexValue?_hexDigit (by omega)]
    exact congrArg some value
  have noTrailing : isTrailing c.toNat = false := by
    simp only [isTrailing, Bool.and_eq_false_iff, decide_eq_false_iff_not]
    omega
  have noLeading : isLeading c.toNat = false := by
    simp only [isLeading, Bool.and_eq_false_iff, decide_eq_false_iff_not]
    omega
  rw [readText]
  simp only [unit, noTrailing, noLeading, Bool.false_eq_true, if_false, Char.ofNat_toNat]

/-- **Quoted texts are read as they were.** -/
theorem readText_escapeAll (cs rest : List Char) :
    readText (escapeAll cs ++ '"' :: rest) = some (cs, rest) := by
  induction cs with
  | nil => rw [escapeAll_nil, List.nil_append, readText]
  | cons c cs ih =>
      have step {written : List Char} (h : Escaped c written) (ds : List Char) :
          readText (written ++ ds) = (readText ds).map fun taken => (c :: taken.1, taken.2) := by
        cases h with
        | plain visible hquote hslash => exact readText_plain visible hquote hslash ds
        | letter h => exact readText_letter h ds
        | code control _ => exact readText_code control ds
      rw [escapeAll_cons, List.append_assoc, step (escape_escaped c), ih]
      rfl

/-! ## Numbers -/

/-- What may follow a tree: nothing that a number goes on with. -/
def Ends (rest : List Char) : Prop :=
  ∀ c ∈ rest.head?, c.isDigit = false ∧ c ≠ '.' ∧ c ≠ 'e' ∧ c ≠ 'E'

theorem Ends.nil : Ends [] :=
  nofun

theorem Ends.cons {c : Char} {rest : List Char}
    (h : c.isDigit = false ∧ c ≠ '.' ∧ c ≠ 'e' ∧ c ≠ 'E') : Ends (c :: rest) := by
  rintro _ ⟨⟩
  exact h

namespace Literal

variable {rest : List Char}

theorem readWhole_digits (h : Ends rest) (n : Nat) :
    readWhole (Decimal.digits n ++ rest) = some (Decimal.digits n, rest) := by
  have digits : ∀ c ∈ Decimal.digits n, c.isDigit = true :=
    fun c hc => Decimal.isDigit_of_mem_digits hc
  have taken : takeDigits (Decimal.digits n ++ rest) = (Decimal.digits n, rest) := by
    unfold takeDigits
    rw [List.takeWhile_append_of_pos digits, List.dropWhile_append_of_pos digits]
    cases rest with
    | nil => simp
    | cons c rest => simp [(h c rfl).1]
  unfold readWhole
  rw [taken]
  by_cases zero : n = 0
  · have digit : Decimal.digits 0 = ['0'] := by
      rw [Decimal.digits]
      rfl
    rw [zero, digit]
    rfl
  · obtain ⟨c, cs, hcs⟩ := List.exists_cons_of_ne_nil (Decimal.digits_ne_nil n)
    have first : c ≠ '0' := by
      have head := Decimal.head?_digits zero
      rw [hcs, List.head?_cons] at head
      exact fun same => head (congrArg some same)
    rw [hcs]
    split
    · next found => cases (Prod.mk.inj found).1
    · next found => exact absurd (List.cons.inj (Prod.mk.inj found).1).1 first
    · next found => exact absurd (List.cons.inj (Prod.mk.inj found).1).1 first
    · next found => rw [← (Prod.mk.inj found).1, ← (Prod.mk.inj found).2]

theorem readFraction_of_ends (h : Ends rest) : readFraction rest = some ([], rest) := by
  cases rest with
  | nil => rfl
  | cons c rest =>
      rw [readFraction]
      exact fun _ point => (h c rfl).2.1 (List.cons.inj point).1

theorem readExponent_of_ends (h : Ends rest) : readExponent rest = some (none, rest) := by
  cases rest with
  | nil => rfl
  | cons c rest =>
      obtain ⟨-, -, lower, upper⟩ := h c rfl
      simp [readExponent, lower, upper]

/-- The text of an integer is a literal without fraction and exponent. -/
theorem read_ofInt (h : Ends rest) (n : Int) :
    read ((Decimal.ofInt n).toList ++ rest) =
      some (⟨decide (n < 0), Decimal.digits n.natAbs, [], none⟩, rest) := by
  cases n with
  | ofNat k =>
      have noSign (ds : List Char) : Decimal.digits k ++ rest ≠ '-' :: ds := by
        obtain ⟨c, cs, hcs⟩ := List.exists_cons_of_ne_nil (Decimal.digits_ne_nil k)
        have digit : c.isDigit = true := Decimal.isDigit_of_mem_digits (hcs ▸ List.mem_cons_self)
        rw [hcs]
        rintro sign
        rw [(List.cons.inj sign).1] at digit
        cases digit
      rw [Decimal.ofInt, String.toList_ofList]
      unfold read
      split
      next negative cs found =>
        split at found
        · next ds sign => exact absurd sign (noSign ds)
        · cases found
          rw [readWhole_digits h]
          simp [readFraction_of_ends h, readExponent_of_ends h]
  | negSucc k =>
      have text : (Decimal.ofInt (.negSucc k)).toList ++ rest =
          '-' :: (Decimal.digits (k + 1) ++ rest) := by simp [Decimal.ofInt]
      rw [text]
      unfold read
      simp [readWhole_digits h, readFraction_of_ends h, readExponent_of_ends h]

/-- Digits that fit in an unsigned word are all absorbed. -/
theorem absorb_of_lt {significand : Nat} {ds : List Char}
    (h : ds.foldl (fun n c => 10 * n + Decimal.digitValue c) significand < UInt64.size) :
    absorb significand ds = (ds.foldl (fun n c => 10 * n + Decimal.digitValue c) significand, 0) := by
  -- appending digits makes a number no smaller
  have grows (n : Nat) (ds : List Char) :
      n ≤ ds.foldl (fun n c => 10 * n + Decimal.digitValue c) n := by
    induction ds generalizing n with
    | nil => exact Nat.le_refl n
    | cons d ds ih => exact Nat.le_trans (show n ≤ 10 * n + Decimal.digitValue d by omega) (ih _)
  induction ds generalizing significand with
  | nil => rfl
  | cons d ds ih =>
      rw [absorb, if_pos (Nat.lt_of_le_of_lt (grows _ ds) h)]
      exact ih h

/-- **Integers of 64 bits are exact.** -/
theorem toJson?_ofInt (n : Int64) :
    toJson? ⟨decide (n.toInt < 0), Decimal.digits n.toInt.natAbs, [], none⟩ = some (.int n) := by
  have low := Int64.le_toInt n
  have high := Int64.toInt_lt n
  have value : (Decimal.digits n.toInt.natAbs).foldl (fun n c => 10 * n + Decimal.digitValue c) 0 =
      n.toInt.natAbs := Decimal.ofDigits_digits _
  have small : n.toInt.natAbs < UInt64.size := by
    unfold UInt64.size
    omega
  have absorbed := @absorb_of_lt 0 (Decimal.digits n.toInt.natAbs) (by rw [value]; exact small)
  rw [value] at absorbed
  unfold toJson?
  simp only [absorbed, List.isEmpty_nil, if_true]
  congr 1
  unfold ofWord
  -- the least integer has a magnitude that no positive one has
  by_cases negative : n.toInt < 0
  · have range : (decide (0 < n.toInt.natAbs) && decide (n.toInt.natAbs ≤ UInt64.size / 2)) = true := by
      simp only [UInt64.size, Bool.and_eq_true, decide_eq_true_eq]
      omega
    have back : -(n.toInt.natAbs : Int) = n.toInt := by omega
    rw [decide_eq_true negative, if_pos rfl, if_pos range, back, Int64.ofInt_toInt]
  · have range : n.toInt.natAbs < UInt64.size / 2 := by
      simp only [UInt64.size]
      omega
    have back : Int64.ofNat n.toInt.natAbs = n := by
      rw [← Int64.ofInt_eq_ofNat, Int.natAbs_of_nonneg (by omega), Int64.ofInt_toInt]
    rw [decide_eq_false negative, if_neg Bool.false_ne_true, if_pos range, back]

end Literal

/-! ## Written trees -/

/-- Nothing but blanks. -/
def Blank (cs : List Char) : Prop :=
  ∀ c ∈ cs, isSpace c = true

theorem Blank.nil : Blank [] :=
  nofun

mutual

/-- The texts of a tree without reals: blanks may stand between its signs. -/
inductive Written : Json → List Char → Prop
  | null : Written null ['n', 'u', 'l', 'l']
  | bool (b : Bool) : Written (bool b) (atom (bool b)).toList
  | int (n : Int64) : Written (int n) (Decimal.ofInt n.toInt).toList
  | text (s : String) : Written (text s) (quote s).toList
  | arrayNil : Written (array []) ['[', ']']
  | array {items : List Json} {blanks cs : List Char} :
      Blank blanks → WrittenItems items cs → Written (array items) ('[' :: (blanks ++ cs))
  | objectNil : Written (object []) ['\x7b', '\x7d']
  | object {members : List (String × Json)} {blanks cs : List Char} :
      Blank blanks → WrittenMembers members cs → Written (object members) ('\x7b' :: (blanks ++ cs))

/-- The texts of the elements of an array up to its bracket. -/
inductive WrittenItems : List Json → List Char → Prop
  | last {j : Json} {cs blanks : List Char} :
      Written j cs → Blank blanks → WrittenItems [j] (cs ++ (blanks ++ [']']))
  | more {j : Json} {items : List Json} {cs blanks ds : List Char} :
      Written j cs → Blank blanks → WrittenItems items ds →
        WrittenItems (j :: items) (cs ++ ',' :: (blanks ++ ds))

/-- The texts of the members of an object up to its brace. -/
inductive WrittenMembers : List (String × Json) → List Char → Prop
  | last {k : String} {j : Json} {gap cs blanks : List Char} :
      Blank gap → Written j cs → Blank blanks →
        WrittenMembers [(k, j)] ((quote k).toList ++ ':' :: (gap ++ (cs ++ (blanks ++ ['\x7d']))))
  | more {k : String} {j : Json} {members : List (String × Json)} {gap cs blanks ds : List Char} :
      Blank gap → Written j cs → Blank blanks → WrittenMembers members ds →
        WrittenMembers ((k, j) :: members)
          ((quote k).toList ++ ':' :: (gap ++ (cs ++ ',' :: (blanks ++ ds))))

end

theorem exists_cons_ofInt (n : Int) :
    ∃ c cs, (Decimal.ofInt n).toList = c :: cs ∧ (c.isDigit = true ∨ c = '-') := by
  cases n with
  | ofNat k =>
      obtain ⟨c, cs, hcs⟩ := List.exists_cons_of_ne_nil (Decimal.digits_ne_nil k)
      exact ⟨c, cs, by rw [Decimal.ofInt, String.toList_ofList, hcs],
        .inl (Decimal.isDigit_of_mem_digits (hcs ▸ List.mem_cons_self))⟩
  | negSucc k => exact ⟨'-', Decimal.digits (k + 1), by simp [Decimal.ofInt], .inr rfl⟩

/-- A written tree starts with a sign of its own: neither a blank nor a closing bracket. -/
theorem Written.exists_cons {j : Json} {cs : List Char} (h : Written j cs) :
    ∃ c ds, cs = c :: ds ∧ Text.isBlank c = false ∧ c ≠ ']' := by
  cases h with
  | null => exact ⟨'n', _, rfl, rfl, by decide⟩
  | bool b =>
      cases b with
      | true => exact ⟨'t', ['r', 'u', 'e'], rfl, rfl, by decide⟩
      | false => exact ⟨'f', ['a', 'l', 's', 'e'], rfl, rfl, by decide⟩
  | int n =>
      obtain ⟨c, ds, hcs, digit | sign⟩ := exists_cons_ofInt n.toInt
      · refine ⟨c, ds, hcs, Decimal.isBlank_of_isDigit digit, ?_⟩
        rintro rfl
        cases digit
      · exact ⟨c, ds, hcs, sign ▸ rfl, sign ▸ by decide⟩
  | text s => exact ⟨'"', _, toList_quote s, rfl, by decide⟩
  | arrayNil => exact ⟨'[', _, rfl, rfl, by decide⟩
  | array blanks items => exact ⟨'[', _, rfl, rfl, by decide⟩
  | objectNil => exact ⟨'\x7b', _, rfl, rfl, by decide⟩
  | object blanks members => exact ⟨'\x7b', _, rfl, rfl, by decide⟩

/-! ## Reading -/

theorem skipSpace_append {blanks : List Char} (h : Blank blanks) (cs : List Char) :
    skipSpace (blanks ++ cs) = skipSpace cs :=
  List.dropWhile_append_of_pos h

/-- The blanks of the format are blank. -/
theorem isSpace_of_isBlank {c : Char} (h : Text.isBlank c = false) : isSpace c = false := by
  simp only [isSpace, Bool.or_eq_false_iff, decide_eq_false_iff_not]
  refine ⟨⟨⟨?_, ?_⟩, ?_⟩, ?_⟩
  all_goals rintro rfl; cases h

theorem skipSpace_cons {c : Char} (h : isSpace c = false) (cs : List Char) :
    skipSpace (c :: cs) = c :: cs :=
  List.dropWhile_cons_of_neg (by simp [h])

theorem readTree_append {blanks : List Char} (h : Blank blanks) (fuel room : Nat)
    (cs : List Char) : readTree fuel room (blanks ++ cs) = readTree fuel room cs := by
  cases fuel with
  | zero => simp only [readTree]
  | succ fuel => simp only [readTree, skipSpace_append h]

/-- A text that starts with a digit or a sign is read as a number. -/
theorem readTree_number {c : Char} (h : c.isDigit = true ∨ c = '-') (fuel room : Nat)
    (cs : List Char) :
    readTree (fuel + 1) room (c :: cs) =
      (Literal.read (c :: cs)).bind fun taken => taken.1.toJson?.map fun j => (j, taken.2) := by
  have differs (d : Char) (hd : d.isDigit = false ∧ d ≠ '-') : c ≠ d := by
    rintro rfl
    rcases h with digit | sign
    · rw [hd.1] at digit
      cases digit
    · exact hd.2 sign
  have visible : Text.isBlank c = false := by
    rcases h with digit | rfl
    · exact Decimal.isBlank_of_isDigit digit
    · rfl
  rw [readTree, skipSpace_cons (isSpace_of_isBlank visible)]
  split
  · next found => exact absurd (List.cons.inj found).1 (differs _ (by decide))
  · next found => exact absurd (List.cons.inj found).1 (differs _ (by decide))
  · next found => exact absurd (List.cons.inj found).1 (differs _ (by decide))
  · next found => exact absurd (List.cons.inj found).1 (differs _ (by decide))
  · next found => exact absurd (List.cons.inj found).1 (differs _ (by decide))
  · next found => exact absurd (List.cons.inj found).1 (differs _ (by decide))
  · cases Literal.read (c :: cs) <;> rfl

theorem readTree_int {rest : List Char} (ends : Ends rest) (fuel room : Nat) (n : Int64) :
    readTree (fuel + 1) room ((Decimal.ofInt n.toInt).toList ++ rest) = some (int n, rest) := by
  obtain ⟨c, cs, hcs, start⟩ := exists_cons_ofInt n.toInt
  have read := Literal.read_ofInt ends n.toInt
  rw [hcs] at read ⊢
  rw [List.cons_append, readTree_number start, ← List.cons_append, read]
  simp only [Option.bind_some, Literal.toJson?_ofInt, Option.map_some]

section

variable {fuel room : Nat} {blanks cs rest : List Char}

theorem readItems_append (h : Blank blanks) (fuel room : Nat) (cs : List Char) :
    readItems fuel room (blanks ++ cs) = readItems fuel room cs := by
  cases fuel with
  | zero => simp only [readItems]
  | succ fuel => simp only [readItems, readTree_append h]

theorem readMembers_append (h : Blank blanks) (fuel room : Nat) (cs : List Char) :
    readMembers fuel room (blanks ++ cs) = readMembers fuel room cs := by
  cases fuel with
  | zero => simp only [readMembers]
  | succ fuel => simp only [readMembers, skipSpace_append h]

theorem readTree_array {c : Char} (visible : Text.isBlank c = false) (noBracket : c ≠ ']')
    (h : Blank blanks) :
    readTree (fuel + 1) (room + 1) ('[' :: (blanks ++ c :: cs)) =
      (readItems fuel room (c :: cs)).map fun taken => (array taken.1, taken.2) := by
  rw [readTree, skipSpace_cons rfl]
  simp only [skipSpace_append h, skipSpace_cons (isSpace_of_isBlank visible)]
  split
  · next found => exact absurd (List.cons.inj found).1 noBracket
  · rfl

theorem readTree_object (h : Blank blanks) :
    readTree (fuel + 1) (room + 1) ('\x7b' :: (blanks ++ '"' :: cs)) =
      (readMembers fuel room ('"' :: cs)).map fun taken => (object taken.1, taken.2) := by
  rw [readTree, skipSpace_cons rfl]
  simp only [skipSpace_append h, skipSpace_cons (c := '"') rfl]
  rfl

theorem readItems_last {j : Json} (h : readTree fuel room cs = some (j, blanks ++ ']' :: rest))
    (hblanks : Blank blanks) : readItems (fuel + 1) room cs = some ([j], rest) := by
  rw [readItems, h]
  simp only [skipSpace_append hblanks, skipSpace_cons (c := ']') rfl]

theorem readItems_more {j : Json} (h : readTree fuel room cs = some (j, ',' :: rest)) :
    readItems (fuel + 1) room cs =
      (readItems fuel room rest).map fun taken => (j :: taken.1, taken.2) := by
  rw [readItems, h]
  simp only [skipSpace_cons (c := ',') rfl]

theorem readMembers_last {k : String} {j : Json}
    (h : readTree fuel room cs = some (j, blanks ++ '\x7d' :: rest)) (hblanks : Blank blanks) :
    readMembers (fuel + 1) room ((quote k).toList ++ ':' :: cs) = some ([(k, j)], rest) := by
  rw [readMembers, toList_quote, List.cons_append, skipSpace_cons rfl, List.append_assoc]
  simp only [List.singleton_append, readText_escapeAll, skipSpace_cons (c := ':') rfl, h,
    skipSpace_append hblanks, skipSpace_cons (c := '\x7d') rfl, String.ofList_toList]

theorem readMembers_more {k : String} {j : Json}
    (h : readTree fuel room cs = some (j, ',' :: rest)) :
    readMembers (fuel + 1) room ((quote k).toList ++ ':' :: cs) =
      (readMembers fuel room rest).map fun taken => ((k, j) :: taken.1, taken.2) := by
  rw [readMembers, toList_quote, List.cons_append, skipSpace_cons rfl, List.append_assoc]
  simp only [List.singleton_append, readText_escapeAll, skipSpace_cons (c := ':') rfl, h,
    skipSpace_cons (c := ',') rfl, String.ofList_toList]

end

theorem WrittenItems.exists_cons {items : List Json} {cs : List Char}
    (h : WrittenItems items cs) : ∃ c ds, cs = c :: ds ∧ Text.isBlank c = false ∧ c ≠ ']' := by
  cases h with
  | last tree _ =>
      obtain ⟨c, ds, rfl, start⟩ := tree.exists_cons
      exact ⟨c, _, List.cons_append, start⟩
  | more tree _ _ =>
      obtain ⟨c, ds, rfl, start⟩ := tree.exists_cons
      exact ⟨c, _, List.cons_append, start⟩

theorem WrittenMembers.exists_cons {members : List (String × Json)} {cs : List Char}
    (h : WrittenMembers members cs) : ∃ ds, cs = '"' :: ds := by
  cases h with
  | last _ _ _ =>
      rw [toList_quote]
      exact ⟨_, List.cons_append⟩
  | more _ _ _ _ =>
      rw [toList_quote]
      exact ⟨_, List.cons_append⟩

/-- A tree may be followed by blanks. -/
theorem Ends.append {blanks rest : List Char} (h : Blank blanks) (ends : Ends rest) :
    Ends (blanks ++ rest) := by
  cases blanks with
  | nil => exact ends
  | cons c blanks =>
      have space : isSpace c = true := h c List.mem_cons_self
      have known : ∀ c ∈ [' ', '\n', '\t', '\r'],
          c.isDigit = false ∧ c ≠ '.' ∧ c ≠ 'e' ∧ c ≠ 'E' :=
        List.all_iff_forall_prop.mp (by decide)
      refine .cons (known c ?_)
      simpa [isSpace, or_assoc] using space

mutual

/-- **What is written for a tree is read as that tree**, given room for its levels. -/
theorem readTree_written {j : Json} {cs : List Char} (h : Written j cs) {fuel room : Nat}
    {rest : List Char} (ends : Ends rest) (deep : j.depth ≤ room) (enough : 2 * cs.length < fuel) :
    readTree fuel room (cs ++ rest) = some (j, rest) := by
  -- a bracket takes two steps, into the collection and to its first part
  obtain ⟨fuel, rfl⟩ := Nat.exists_eq_succ_of_ne_zero (Nat.ne_of_gt (Nat.zero_lt_of_lt enough))
  cases h with
  | null => rfl
  | bool b => cases b <;> rfl
  | int n => exact readTree_int ends fuel room n
  | text s =>
      rw [toList_quote]
      show (readText (escapeAll s.toList ++ ['"'] ++ rest)).map _ = _
      rw [List.append_assoc, List.singleton_append, readText_escapeAll]
      simp only [Option.map_some, String.ofList_toList]
  | arrayNil =>
      obtain ⟨room, rfl⟩ := Nat.exists_eq_succ_of_ne_zero (Nat.ne_of_gt (Nat.zero_lt_of_lt deep))
      rfl
  | @array items blanks cs space written =>
      obtain ⟨room, rfl⟩ := Nat.exists_eq_succ_of_ne_zero (Nat.ne_of_gt (Nat.zero_lt_of_lt deep))
      simp only [List.length_cons, List.length_append] at enough
      have all : readItems fuel room (cs ++ rest) = some (items, rest) :=
        readItems_written written (depth_array_le_iff.mp deep) (by omega)
      obtain ⟨c, ds, rfl, visible, noBracket⟩ := written.exists_cons
      rw [List.cons_append] at all
      rw [List.cons_append, List.append_assoc, List.cons_append,
        readTree_array visible noBracket space, all]
      rfl
  | objectNil =>
      obtain ⟨room, rfl⟩ := Nat.exists_eq_succ_of_ne_zero (Nat.ne_of_gt (Nat.zero_lt_of_lt deep))
      rfl
  | @object members blanks cs space written =>
      obtain ⟨room, rfl⟩ := Nat.exists_eq_succ_of_ne_zero (Nat.ne_of_gt (Nat.zero_lt_of_lt deep))
      simp only [List.length_cons, List.length_append] at enough
      have all : readMembers fuel room (cs ++ rest) = some (members, rest) :=
        readMembers_written written (depth_object_le_iff.mp deep) (by omega)
      obtain ⟨ds, rfl⟩ := written.exists_cons
      rw [List.cons_append] at all
      rw [List.cons_append, List.append_assoc, List.cons_append, readTree_object space, all]
      rfl

/-- The elements of an array are read up to its bracket. -/
theorem readItems_written {items : List Json} {cs : List Char} (h : WrittenItems items cs)
    {fuel room : Nat} {rest : List Char} (deep : ∀ j ∈ items, j.depth ≤ room)
    (enough : 2 * cs.length < fuel) :
    readItems fuel room (cs ++ rest) = some (items, rest) := by
  obtain ⟨fuel, rfl⟩ := Nat.exists_eq_succ_of_ne_zero (Nat.ne_of_gt (Nat.zero_lt_of_lt enough))
  cases h with
  | @last j cs blanks tree space =>
      simp only [List.length_append, List.length_cons] at enough
      have first : readTree fuel room (cs ++ (blanks ++ ']' :: rest)) =
          some (j, blanks ++ ']' :: rest) :=
        readTree_written tree (.append space (.cons (by decide))) (deep _ List.mem_cons_self)
          (by omega)
      rw [List.append_assoc, List.append_assoc]
      exact readItems_last first space
  | @more j items cs blanks ds tree space more =>
      simp only [List.length_append, List.length_cons] at enough
      have first : readTree fuel room (cs ++ ',' :: (blanks ++ (ds ++ rest))) =
          some (j, ',' :: (blanks ++ (ds ++ rest))) :=
        readTree_written tree (.cons (by decide)) (deep _ List.mem_cons_self) (by omega)
      rw [List.append_assoc, List.cons_append, List.append_assoc, readItems_more first,
        readItems_append space, readItems_written more (List.forall_mem_cons.mp deep).2 (by omega)]
      rfl

/-- The members of an object are read up to its brace. -/
theorem readMembers_written {members : List (String × Json)} {cs : List Char}
    (h : WrittenMembers members cs) {fuel room : Nat} {rest : List Char}
    (deep : ∀ member ∈ members, member.2.depth ≤ room) (enough : 2 * cs.length < fuel) :
    readMembers fuel room (cs ++ rest) = some (members, rest) := by
  obtain ⟨fuel, rfl⟩ := Nat.exists_eq_succ_of_ne_zero (Nat.ne_of_gt (Nat.zero_lt_of_lt enough))
  cases h with
  | @last k j gap cs blanks gapSpace tree space =>
      simp only [List.length_append, List.length_cons] at enough
      have first : readTree fuel room (cs ++ (blanks ++ '\x7d' :: rest)) =
          some (j, blanks ++ '\x7d' :: rest) :=
        readTree_written tree (.append space (.cons (by decide))) (deep _ List.mem_cons_self)
          (by omega)
      rw [← readTree_append gapSpace] at first
      simp only [List.append_assoc, List.cons_append, List.nil_append]
      exact readMembers_last first space
  | @more k j members gap cs blanks ds gapSpace tree space more =>
      simp only [List.length_append, List.length_cons] at enough
      have first : readTree fuel room (cs ++ ',' :: (blanks ++ (ds ++ rest))) =
          some (j, ',' :: (blanks ++ (ds ++ rest))) :=
        readTree_written tree (.cons (by decide)) (deep _ List.mem_cons_self) (by omega)
      rw [← readTree_append gapSpace] at first
      simp only [List.append_assoc, List.cons_append]
      rw [readMembers_more first, readMembers_append space,
        readMembers_written more (List.forall_mem_cons.mp deep).2 (by omega)]
      rfl

end

theorem parse?_of_written {j : Json} {s : String} (h : Written j s.toList)
    (deep : j.depth ≤ nestingLimit) : parse? s = some j := by
  have read := readTree_written h .nil deep (Nat.lt_succ_self _)
  rw [List.append_nil] at read
  unfold parse?
  simp only [read]
  rfl

/-! ## Writing -/

/-- A tree has parts when it is an array or an object. -/
def hasParts : Json → Bool
  | array _ | object _ => true
  | null | bool _ | int _ | real _ | text _ => false

theorem compact_of_hasParts {j : Json} (h : j.hasParts = false) : j.compact = atom j := by
  cases j with
  | array items => cases h
  | object members => cases h
  | null | bool b | int n | real x | text s =>
      rw [compact]
      all_goals nofun

theorem prettyAt_of_hasParts {j : Json} (h : j.hasParts = false) (level : Nat) :
    j.prettyAt level = atom j := by
  cases j with
  | array items => cases h
  | object members => cases h
  | null | bool b | int n | real x | text s =>
      rw [prettyAt]
      all_goals nofun

theorem written_atom {j : Json} (h : j.isRealFree = true) (parts : j.hasParts = false) :
    Written j (atom j).toList := by
  cases j with
  | null => exact .null
  | bool b => exact .bool b
  | int n => exact .int n
  | real x => cases h
  | text s => exact .text s
  | array items => cases parts
  | object members => cases parts

theorem writtenItems_compact {j : Json} {items : List Json}
    (all : ∀ k ∈ j :: items, Written k k.compact.toList) :
    WrittenItems (j :: items) ((compactItems (j :: items)).toList ++ [']']) := by
  induction items generalizing j with
  | nil =>
      rw [compactItems]
      exact @WrittenItems.last j _ [] (all j List.mem_cons_self) .nil
  | cons k items ih =>
      have text : (compactItems (j :: k :: items)).toList =
          j.compact.toList ++ ',' :: (compactItems (k :: items)).toList := by simp [compactItems]
      have rest := ih fun k hk => all k (List.mem_cons_of_mem j hk)
      rw [text, List.append_assoc, List.cons_append]
      exact @WrittenItems.more j _ _ [] _ (all j List.mem_cons_self) .nil rest

theorem writtenMembers_compact {k : String} {j : Json} {members : List (String × Json)}
    (all : ∀ member ∈ (k, j) :: members, Written member.2 member.2.compact.toList) :
    WrittenMembers ((k, j) :: members) ((compactMembers ((k, j) :: members)).toList ++ ['\x7d']) := by
  induction members generalizing k j with
  | nil =>
      have text : (compactMembers [(k, j)]).toList = (quote k).toList ++ ':' :: j.compact.toList := by
        simp [compactMembers]
      rw [text, List.append_assoc, List.cons_append]
      exact @WrittenMembers.last k j [] _ [] .nil (all _ List.mem_cons_self) .nil
  | cons member members ih =>
      have text : (compactMembers ((k, j) :: member :: members)).toList =
          (quote k).toList ++ ':' :: (j.compact.toList ++
            ',' :: (compactMembers (member :: members)).toList) := by
        simp [compactMembers]
      have rest := ih fun k hk => all k (List.mem_cons_of_mem _ hk)
      rw [text, List.append_assoc, List.cons_append, List.append_assoc, List.cons_append]
      exact @WrittenMembers.more k j _ [] _ [] _ .nil (all _ List.mem_cons_self) .nil rest

/-- Trees without reals are written without blanks. -/
theorem written_compact {j : Json} (h : j.isRealFree = true) : Written j j.compact.toList := by
  induction j with
  | null | bool b | int n | real x | text s =>
      rw [compact_of_hasParts rfl]
      exact written_atom h rfl
  | array items ih =>
      have all (j : Json) (hj : j ∈ items) := ih j hj (isRealFree_array_iff.mp h j hj)
      have text : (array items).compact.toList = '[' :: ((compactItems items).toList ++ [']']) := by
        simp [compact]
      rw [text]
      cases items with
      | nil => exact .arrayNil
      | cons j items => exact @Written.array _ [] _ .nil (writtenItems_compact all)
  | object members ih =>
      have all (member : String × Json) (hm : member ∈ members) :=
        ih member hm (isRealFree_object_iff.mp h member hm)
      have text : (object members).compact.toList =
          '\x7b' :: ((compactMembers members).toList ++ ['\x7d']) := by
        simp [compact]
      rw [text]
      cases members with
      | nil => exact .objectNil
      | cons member members => exact @Written.object _ [] _ .nil (writtenMembers_compact all)

theorem blank_indent (level : Nat) : Blank (indent level).toList := by
  rw [indent, String.toList_ofList]
  refine List.forall_mem_cons.mpr ⟨rfl, fun c hc => ?_⟩
  rw [List.eq_of_mem_replicate hc]
  rfl

theorem writtenItems_pretty {level : Nat} {j : Json} {items : List Json} {blanks : List Char}
    (all : ∀ k ∈ j :: items, Written k (k.prettyAt level).toList) (h : Blank blanks) :
    WrittenItems (j :: items)
      ((j.prettyAt level).toList ++ ((prettyItems level items).toList ++ (blanks ++ [']']))) := by
  induction items generalizing j with
  | nil =>
      rw [prettyItems, String.toList_empty, List.nil_append]
      exact .last (all j List.mem_cons_self) h
  | cons k items ih =>
      have text : (prettyItems level (k :: items)).toList = ',' :: ((indent level).toList ++
          ((k.prettyAt level).toList ++ (prettyItems level items).toList)) := by
        simp [prettyItems]
      have rest := ih fun k hk => all k (List.mem_cons_of_mem j hk)
      rw [text, List.cons_append, List.append_assoc, List.append_assoc]
      exact .more (all j List.mem_cons_self) (blank_indent level) rest

theorem writtenMembers_pretty {level : Nat} {k : String} {j : Json}
    {members : List (String × Json)} {blanks : List Char}
    (all : ∀ member ∈ (k, j) :: members, Written member.2 (member.2.prettyAt level).toList)
    (h : Blank blanks) :
    WrittenMembers ((k, j) :: members)
      ((quote k).toList ++ ':' :: ([' '] ++ ((j.prettyAt level).toList ++
        ((prettyMembers level members).toList ++ (blanks ++ ['\x7d']))))) := by
  have gap : Blank [' '] := by simp [Blank, isSpace]
  induction members generalizing k j with
  | nil =>
      rw [prettyMembers, String.toList_empty, List.nil_append]
      exact .last gap (all _ List.mem_cons_self) h
  | cons member members ih =>
      have text : (prettyMembers level (member :: members)).toList =
          ',' :: ((indent level).toList ++ ((quote member.1).toList ++ ':' :: ([' '] ++
            ((member.2.prettyAt level).toList ++ (prettyMembers level members).toList)))) := by
        simp [prettyMembers]
      have rest := ih fun k hk => all k (List.mem_cons_of_mem _ hk)
      rw [text]
      simp only [List.append_assoc, List.cons_append] at rest ⊢
      exact .more gap (all _ List.mem_cons_self) (blank_indent level) rest

/-- Trees without reals are written on several lines. -/
theorem written_prettyAt {j : Json} (h : j.isRealFree = true) (level : Nat) :
    Written j (j.prettyAt level).toList := by
  induction j generalizing level with
  | null | bool b | int n | real x | text s =>
      rw [prettyAt_of_hasParts rfl]
      exact written_atom h rfl
  | array items ih =>
      have all (j : Json) (hj : j ∈ items) :=
        ih j hj (isRealFree_array_iff.mp h j hj) (level + 1)
      cases items with
      | nil =>
          rw [prettyAt]
          exact .arrayNil
      | cons j items =>
          have text : ((array (j :: items)).prettyAt level).toList =
              '[' :: ((indent (level + 1)).toList ++ ((j.prettyAt (level + 1)).toList ++
                ((prettyItems (level + 1) items).toList ++ ((indent level).toList ++ [']'])))) := by
            simp [prettyAt]
          rw [text]
          exact .array (blank_indent _) (writtenItems_pretty all (blank_indent level))
  | object members ih =>
      have all (member : String × Json) (hm : member ∈ members) :=
        ih member hm (isRealFree_object_iff.mp h member hm) (level + 1)
      cases members with
      | nil =>
          rw [prettyAt]
          exact .objectNil
      | cons member members =>
          have text : ((object (member :: members)).prettyAt level).toList =
              '\x7b' :: ((indent (level + 1)).toList ++ ((quote member.1).toList ++ ':' :: ([' '] ++
                ((member.2.prettyAt (level + 1)).toList ++
                  ((prettyMembers (level + 1) members).toList ++
                    ((indent level).toList ++ ['\x7d'])))))) := by
            simp [prettyAt]
          rw [text]
          exact .object (blank_indent _) (writtenMembers_pretty all (blank_indent level))

/-- **A tree without reals that is not nested too deep is read back from its lines.** -/
theorem parse?_pretty {j : Json} (h : j.isRealFree = true) (deep : j.depth ≤ nestingLimit) :
    parse? j.pretty = some j :=
  parse?_of_written (written_prettyAt h 0) deep

theorem parse?_compact {j : Json} (h : j.isRealFree = true) (deep : j.depth ≤ nestingLimit) :
    parse? j.compact = some j :=
  parse?_of_written (written_compact h) deep

/-! ## Nesting -/

theorem Literal.depth_of_toJson? {l : Literal} {j : Json} (h : l.toJson? = some j) :
    j.depth = 0 := by
  have word (negative : Bool) (n : Nat) : (ofWord negative n).depth = 0 := by
    unfold ofWord
    split <;> split <;> rw [depth]
  have scaled {significand : Nat} {power : Int}
      (h : (scale? significand power).map (fun x => real (withSign l.negative x)) = some j) :
      j.depth = 0 := by
    obtain ⟨x, -, rfl⟩ := Option.map_eq_some_iff.mp h
    rw [depth]
  unfold toJson? at h
  simp only at h
  split at h
  · split at h
    · split at h
      · cases h
        exact word _ _
      · exact scaled h
    · exact scaled h
  · exact scaled h

/-- The three readers give no more levels than they have room for. -/
structure Shallow (fuel : Nat) : Prop where
  tree : ∀ {room cs j rest}, readTree fuel room cs = some (j, rest) → j.depth ≤ room
  items : ∀ {room cs items rest}, readItems fuel room cs = some (items, rest) →
    ∀ j ∈ items, j.depth ≤ room
  members : ∀ {room cs members rest}, readMembers fuel room cs = some (members, rest) →
    ∀ member ∈ members, member.2.depth ≤ room

namespace Shallow

variable {fuel : Nat} (h : Shallow fuel)
include h

theorem tree_succ {room : Nat} {cs rest : List Char} {j : Json}
    (read : readTree (fuel + 1) room cs = some (j, rest)) : j.depth ≤ room := by
  rw [readTree] at read
  split at read
  · cases read
    exact Nat.zero_le room
  · cases read
    exact Nat.zero_le room
  · cases read
    exact Nat.zero_le room
  · obtain ⟨taken, -, found⟩ := Option.map_eq_some_iff.mp read
    cases found
    exact Nat.zero_le room
  · cases room with
    | zero => cases read
    | succ room =>
        simp only at read
        split at read
        · cases read
          exact depth_array_le_iff.mpr nofun
        · obtain ⟨taken, items, found⟩ := Option.map_eq_some_iff.mp read
          cases found
          exact depth_array_le_iff.mpr (h.items items)
  · cases room with
    | zero => cases read
    | succ room =>
        simp only at read
        split at read
        · cases read
          exact depth_object_le_iff.mpr nofun
        · obtain ⟨taken, members, found⟩ := Option.map_eq_some_iff.mp read
          cases found
          exact depth_object_le_iff.mpr (h.members members)
  · split at read
    · cases read
    · obtain ⟨number, value, found⟩ := Option.map_eq_some_iff.mp read
      cases found
      rw [Literal.depth_of_toJson? value]
      exact Nat.zero_le room

theorem items_succ {room : Nat} {cs rest : List Char} {items : List Json}
    (read : readItems (fuel + 1) room cs = some (items, rest)) : ∀ j ∈ items, j.depth ≤ room := by
  rw [readItems] at read
  split at read
  · cases read
  · next item rest first =>
      split at read
      · obtain ⟨taken, more, found⟩ := Option.map_eq_some_iff.mp read
        cases found
        exact List.forall_mem_cons.mpr ⟨h.tree first, h.items more⟩
      · cases read
        exact List.forall_mem_singleton.mpr (h.tree first)
      · cases read

theorem members_succ {room : Nat} {cs rest : List Char} {members : List (String × Json)}
    (read : readMembers (fuel + 1) room cs = some (members, rest)) :
    ∀ member ∈ members, member.2.depth ≤ room := by
  rw [readMembers] at read
  split at read
  · split at read
    · cases read
    · split at read
      · split at read
        · cases read
        · next value rest first =>
            simp only at read
            split at read
            · obtain ⟨taken, more, found⟩ := Option.map_eq_some_iff.mp read
              cases found
              exact List.forall_mem_cons.mpr ⟨h.tree first, h.members more⟩
            · cases read
              exact List.forall_mem_singleton.mpr (h.tree first)
            · cases read
      · cases read
  · cases read

end Shallow

theorem shallow (fuel : Nat) : Shallow fuel := by
  induction fuel with
  | zero =>
      constructor
      · intro room cs j rest read
        cases read
      · intro room cs items rest read
        cases read
      · intro room cs members rest read
        cases read
  | succ fuel ih => exact ⟨ih.tree_succ, ih.items_succ, ih.members_succ⟩

/-- **What is read from a text is not nested too deep to be read again.** -/
theorem depth_le_of_parse? {s : String} {j : Json} (h : parse? s = some j) :
    j.depth ≤ nestingLimit := by
  unfold parse? at h
  simp only at h
  split at h
  · next tree rest read =>
      split at h
      · cases h
        exact (shallow _).tree read
      · cases h
  · cases h

end Fiction.Json
