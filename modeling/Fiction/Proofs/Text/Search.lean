import Fiction.Text.Search
import Mathlib.Data.List.Basic

/-!
# Fiction.Proofs.Text.Search

Splitting a text at a delimiter and joining the pieces again.

* `search_induction` goes through a text as the search does, from left to right and past each delimiter it
  finds. `split_found` and `split_passed` are its two steps, and `join_split` says that joining undoes
  splitting.
* `Collapsed` says what it is to write every run of delimiters once. `collapsed_iff`: **without the empty pieces
  in between, the pieces make up the collapsed text**, and no other.
* `length_join_dropInner` counts what is lost, so `rejoined_eq_iff` tells when nothing is.
-/

namespace Fiction.Text

variable {d : List Char}

/-! ## Pieces -/

/-- A character in front of the first piece is in front of the joined text. -/
theorem join_consPiece (delimiter : List Char) (c : Char) (pieces : List (List Char)) :
    join delimiter (consPiece c pieces) = c :: join delimiter pieces := by
  rcases pieces with _ | ⟨piece, _ | ⟨next, rest⟩⟩
  · rfl
  · rfl
  · rfl

theorem consPiece_ne_nil (c : Char) (pieces : List (List Char)) : consPiece c pieces ≠ [] := by
  cases pieces with
  | nil => exact List.cons_ne_nil _ _
  | cons _ _ => exact List.cons_ne_nil _ _

theorem join_cons_of_ne_nil (delimiter piece : List Char) {rest : List (List Char)}
    (h : rest ≠ []) : join delimiter (piece :: rest) = piece ++ (delimiter ++ join delimiter rest) := by
  cases rest with
  | nil => exact absurd rfl h
  | cons next rest => rw [join, List.append_assoc]; exact h

theorem join_eq_intercalate (delimiter : List Char) (pieces : List (List Char)) :
    join delimiter pieces = delimiter.intercalate pieces := by
  induction pieces with
  | nil => rfl
  | cons piece rest ih =>
      cases rest with
      | nil => exact (List.intercalate_singleton ..).symm
      | cons next rest =>
          rw [join_cons_of_ne_nil _ _ (List.cons_ne_nil _ _), ih, List.intercalate_cons_cons,
            List.append_assoc]

/-! ## Search -/

/-- What is left of the delimiter at hand is passed over. -/
theorem splitFrom_eq_split (delimiter : List Char) (n : Nat) (cs : List Char) :
    splitFrom delimiter n cs = split delimiter (cs.drop n) := by
  induction n generalizing cs with
  | zero => rfl
  | succ n ih =>
      cases cs with
      | nil => rfl
      | cons c cs => exact ih cs

theorem split_cons (delimiter : List Char) (c : Char) (cs : List Char) :
    split delimiter (c :: cs) =
      if delimiter.isPrefixOf (c :: cs) then [] :: split delimiter (cs.drop (delimiter.length - 1))
      else consPiece c (split delimiter cs) := by
  rw [split, splitFrom, splitFrom_eq_split]
  rfl

theorem split_ne_nil (delimiter cs : List Char) : split delimiter cs ≠ [] := by
  cases cs with
  | nil => exact List.cons_ne_nil _ _
  | cons c cs =>
      rw [split_cons]
      split
      · exact List.cons_ne_nil _ _
      · exact consPiece_ne_nil c _

/-- The search finds a delimiter and goes on behind it. -/
theorem split_found (hd : d ≠ []) (rest : List Char) : split d (d ++ rest) = [] :: split d rest := by
  obtain ⟨c, cs, rfl⟩ := List.exists_cons_of_ne_nil hd
  have found : (c :: cs).isPrefixOf (c :: (cs ++ rest)) = true :=
    List.isPrefixOf_iff_prefix.mpr (List.prefix_append (c :: cs) rest)
  rw [List.cons_append, split_cons, if_pos found]
  simp

/-- The search passes over a character. -/
theorem split_passed {c : Char} {cs : List Char} (h : ¬ d <+: c :: cs) :
    split d (c :: cs) = consPiece c (split d cs) := by
  rw [split_cons, if_neg (mt List.isPrefixOf_iff_prefix.mp h)]

/-- Induction along the search: a text is empty, or has a delimiter in front, or a character at which no
delimiter starts. -/
theorem search_induction {motive : List Char → Prop} (hd : d ≠ []) (nil : motive [])
    (found : ∀ rest, motive rest → motive (d ++ rest))
    (passed : ∀ c cs, ¬ d <+: c :: cs → motive cs → motive (c :: cs)) (text : List Char) :
    motive text := by
  induction h : text.length using Nat.strongRecOn generalizing text with
  | _ n ih =>
      by_cases here : d <+: text
      · obtain ⟨rest, rfl⟩ := here
        have shorter : rest.length < n := by
          rw [← h, List.length_append]
          have := List.length_pos_of_ne_nil hd
          omega
        exact found rest (ih _ shorter rest rfl)
      · cases text with
        | nil => exact nil
        | cons c cs => exact passed c cs here (ih cs.length (by simp [← h]) cs rfl)

/-- **Joining undoes splitting.** -/
theorem join_split (hd : d ≠ []) (text : List Char) : join d (split d text) = text := by
  induction text using search_induction hd with
  | nil => rfl
  | found rest ih => rw [split_found hd, join_cons_of_ne_nil _ _ (split_ne_nil _ _), ih, List.nil_append]
  | passed c cs here ih => rw [split_passed here, join_consPiece, ih]

/-- What stands in a piece stands in the text. -/
theorem mem_of_mem_split {d c : Char} {piece cs : List Char} (h : piece ∈ split [d] cs)
    (hc : c ∈ piece) : c ∈ cs := by
  have joined {pieces : List (List Char)} (h : piece ∈ pieces) : c ∈ join [d] pieces := by
    induction pieces with
    | nil => cases h
    | cons first rest ih =>
        cases rest with
        | nil => exact List.mem_singleton.mp h ▸ hc
        | cons next rest =>
            rw [join_cons_of_ne_nil _ _ (List.cons_ne_nil _ _), List.mem_append]
            rcases List.mem_cons.mp h with rfl | later
            · exact .inl hc
            · exact .inr (List.mem_append_right _ (ih later))
  rw [← join_split (List.cons_ne_nil d []) cs]
  exact joined h

/-- A delimiter in front of a text is an empty piece with others behind it. -/
theorem starts_iff_split (hd : d ≠ []) {text : List Char} :
    d <+: text ↔ ∃ pieces, pieces ≠ [] ∧ split d text = [] :: pieces := by
  constructor
  · rintro ⟨rest, rfl⟩
    exact ⟨_, split_ne_nil d rest, split_found hd rest⟩
  · rintro ⟨pieces, others, found⟩
    by_contra here
    cases text with
    | nil =>
        obtain rfl : [] = pieces := (List.cons.inj found).2
        exact others rfl
    | cons c cs =>
        obtain ⟨piece, rest, behind⟩ := List.exists_cons_of_ne_nil (split_ne_nil d cs)
        rw [split_passed here, behind] at found
        cases found

/-! ## Runs of delimiters -/

/-- The text `s` is `text` with every run of delimiters written once. Delimiters are looked for from left to
right, and a run goes as far as they follow each other. -/
inductive Collapsed (d : List Char) : List Char → List Char → Prop
  | nil : Collapsed d [] []
  | other {c : Char} {cs s : List Char} (here : ¬ d <+: c :: cs) (rest : Collapsed d cs s) :
      Collapsed d (c :: cs) (c :: s)
  | run (n : Nat) {cs s : List Char} (here : ¬ d <+: cs) (rest : Collapsed d cs s) :
      Collapsed d ((List.replicate (n + 1) d).flatten ++ cs) (d ++ s)

/-- Behind the first piece, an empty one is dropped unless it is the last. -/
theorem dropInner.go_cons (piece : List Char) (rest : List (List Char)) :
    dropInner.go (piece :: rest) =
      if piece = [] ∧ rest ≠ [] then dropInner.go rest else piece :: dropInner.go rest := by
  cases rest with
  | nil => simp [dropInner.go]
  | cons next rest =>
      cases piece with
      | nil => simp [dropInner.go]
      | cons c cs => simp [dropInner.go]

theorem dropInner_consPiece (c : Char) (pieces : List (List Char)) :
    dropInner (consPiece c pieces) = consPiece c (dropInner pieces) := by
  cases pieces with
  | nil => rfl
  | cons piece rest => rfl

/-- The text that is left when the empty pieces in between are dropped. -/
def rejoined (d text : List Char) : List Char :=
  join d (dropInner (split d text))

theorem rejoined_passed {c : Char} {cs : List Char} (h : ¬ d <+: c :: cs) :
    rejoined d (c :: cs) = c :: rejoined d cs := by
  rw [rejoined, split_passed h, dropInner_consPiece, join_consPiece, rejoined]

/-- Of a delimiter that another one follows nothing is left. -/
theorem rejoined_found (hd : d ≠ []) (rest : List Char) :
    (d <+: rest → rejoined d (d ++ rest) = rejoined d rest) ∧
      (¬ d <+: rest → rejoined d (d ++ rest) = d ++ rejoined d rest) := by
  obtain ⟨piece, pieces, found⟩ := List.exists_cons_of_ne_nil (split_ne_nil d rest)
  have first : (d <+: rest) ↔ piece = [] ∧ pieces ≠ [] := by
    rw [starts_iff_split hd, found]
    constructor
    · rintro ⟨others, some, same⟩
      obtain ⟨empty, rfl⟩ := List.cons.inj same
      exact ⟨empty, some⟩
    · rintro ⟨rfl, some⟩
      exact ⟨pieces, some, rfl⟩
  have pieces_eq : dropInner (split d (d ++ rest)) = [] :: dropInner.go (piece :: pieces) := by
    rw [split_found hd, found, dropInner]
  rw [first, rejoined, rejoined, pieces_eq, dropInner.go_cons, found, dropInner]
  constructor
  · intro h
    rw [if_pos h, h.1]
  · intro h
    rw [if_neg h, join_cons_of_ne_nil _ _ (List.cons_ne_nil _ _), List.nil_append]

/-- A run leaves one delimiter. -/
theorem rejoined_run (hd : d ≠ []) (n : Nat) {rest : List Char} (h : ¬ d <+: rest) :
    rejoined d ((List.replicate (n + 1) d).flatten ++ rest) = d ++ rejoined d rest := by
  induction n with
  | zero =>
      rw [List.replicate_one, List.flatten_singleton]
      exact (rejoined_found hd rest).2 h
  | succ n ih =>
      rw [List.replicate_succ, List.flatten_cons, List.append_assoc]
      refine ((rejoined_found hd _).1 ?_).trans ih
      rw [List.replicate_succ, List.flatten_cons, List.append_assoc]
      exact List.prefix_append _ _

/-- A text starts with a run, which may have no delimiters in it. -/
theorem exists_run (hd : d ≠ []) (text : List Char) :
    ∃ n rest, text = (List.replicate n d).flatten ++ rest ∧ ¬ d <+: rest := by
  induction text using search_induction hd with
  | nil => exact ⟨0, [], rfl, mt List.prefix_nil.mp hd⟩
  | found rest ih =>
      obtain ⟨n, behind, rfl, h⟩ := ih
      exact ⟨n + 1, behind, by rw [List.replicate_succ, List.flatten_cons, List.append_assoc], h⟩
  | passed c cs here _ => exact ⟨0, c :: cs, rfl, here⟩

/-- **Without the empty pieces in between, the pieces make up the collapsed text.** -/
theorem collapsed_rejoined (hd : d ≠ []) (text : List Char) :
    Collapsed d text (rejoined d text) := by
  induction h : text.length using Nat.strongRecOn generalizing text with
  | _ length ih =>
      obtain ⟨n, rest, rfl, here⟩ := exists_run hd text
      cases n with
      | zero =>
          cases rest with
          | nil => exact .nil
          | cons c cs =>
              rw [List.replicate_zero, List.flatten_nil, List.nil_append] at h ⊢
              rw [rejoined_passed here]
              exact .other here (ih cs.length (by simp [← h]) cs rfl)
      | succ n =>
          have shorter : rest.length < length := by
            have := List.length_pos_of_ne_nil hd
            rw [← h, List.replicate_succ, List.flatten_cons, List.length_append, List.length_append]
            omega
          rw [rejoined_run hd n here]
          exact .run n here (ih rest.length shorter rest rfl)

/-- There is no other collapsed text. -/
theorem collapsed_iff (hd : d ≠ []) {text s : List Char} : Collapsed d text s ↔ s = rejoined d text := by
  constructor
  · intro h
    induction h with
    | nil => rfl
    | other here _ ih => rw [rejoined_passed here, ih]
    | run n here _ ih => rw [rejoined_run hd n here, ih]
  · rintro rfl
    exact collapsed_rejoined hd text

/-! ## What is lost -/

/-- With each empty piece in between a delimiter is lost. -/
theorem length_join_dropInner (d first : List Char) (rest : List (List Char)) :
    (join d (dropInner (first :: rest))).length + d.length * rest.dropLast.count [] =
      (join d (first :: rest)).length := by
  induction rest generalizing first with
  | nil => rfl
  | cons piece rest ih =>
      have both := ih first
      have next := ih piece
      rw [dropInner] at both next ⊢
      rw [dropInner.go_cons]
      by_cases last : rest = []
      · subst last
        simp [dropInner.go]
      · rw [List.dropLast_cons_of_ne_nil last, List.count_cons, join_cons_of_ne_nil _ _ (List.cons_ne_nil _ _)]
        rw [join_cons_of_ne_nil _ _ last] at both
        by_cases empty : piece = []
        · subst empty
          rw [if_pos ⟨rfl, last⟩, join_cons_of_ne_nil _ _ last]
          simp only [List.length_append, List.length_nil, beq_self_eq_true, if_true, Nat.mul_add] at both ⊢
          omega
        · have counted : (piece == []) = false := by simpa using empty
          rw [if_neg fun h => empty h.1, join_cons_of_ne_nil _ _ (List.cons_ne_nil _ _), counted]
          simp only [List.length_append, Bool.false_eq_true, if_false, Nat.add_zero] at next ⊢
          omega

theorem dropInner_of_forall_ne_nil {first : List Char} {rest : List (List Char)}
    (h : ∀ piece ∈ rest.dropLast, piece ≠ []) : dropInner (first :: rest) = first :: rest := by
  have kept : dropInner.go rest = rest := by
    induction rest with
    | nil => rfl
    | cons piece rest ih =>
        rw [dropInner.go_cons]
        by_cases last : rest = []
        · rw [if_neg fun both => both.2 last, last, dropInner.go]
        · rw [List.dropLast_cons_of_ne_nil last, List.forall_mem_cons] at h
          rw [if_neg fun both => h.1 both.1, ih h.2]
  rw [dropInner, kept]

/-- **A text is rejoined if and only if no piece in between is empty.** -/
theorem rejoined_eq_iff (hd : d ≠ []) (text : List Char) :
    rejoined d text = text ↔ ∀ piece ∈ (split d text).tail.dropLast, piece ≠ [] := by
  obtain ⟨first, rest, found⟩ := List.exists_cons_of_ne_nil (split_ne_nil d text)
  have whole := join_split hd text
  rw [rejoined, found, List.tail_cons]
  rw [found] at whole
  constructor
  · intro same piece hpiece empty
    have lost := length_join_dropInner d first rest
    rw [same, whole] at lost
    have some : 0 < d.length * rest.dropLast.count [] :=
      Nat.mul_pos (List.length_pos_of_ne_nil hd) (List.count_pos_iff.mpr (empty ▸ hpiece))
    omega
  · intro h
    rw [dropInner_of_forall_ne_nil h, whole]

example : rejoined ['.', '.'] ".....a....b".toList = "...a..b".toList := by decide

end Fiction.Text
