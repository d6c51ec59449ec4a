import Fiction.Operator.Apply
import Fiction.Proofs.Text.Search

/-!
# Fiction.Proofs.Operator.Split

**Folding the pieces of a text with the delimiter between them writes every run of delimiters once.** A text
comes back as it was if no two delimiters in it follow each other.

* `reduce_texts`: folding texts with `+` joins them.
* `splitLiteral_of_ne_empty` is what `^^` gives, and `toList_intercalate_pieces` what is folded from it.
* `join_after_split` is the main statement. What a collapsed text is, and how it comes about, is in
  `Fiction.Proofs.Text.Search`.
-/

namespace Fiction.Operator

/-- The fold puts the seed and the next text behind what it has. -/
theorem reduceFrom_texts (seed first : String) (rest : List String) :
    reduceFrom plus (.text seed) (.text first) (rest.map .text) =
      .ok (.text (seed.intercalate (first :: rest))) := by
  induction rest generalizing first with
  | nil => rw [String.intercalate_singleton, List.map_nil, reduceFrom]
  | cons next rest ih =>
      have step : reduceFrom plus (.text seed) (.text first) ((next :: rest).map .text) =
          reduceFrom plus (.text seed) (.text (first ++ seed ++ next)) (rest.map .text) := rfl
      rw [step, ih, String.intercalate_cons_append, String.intercalate_cons_cons]

/-- **Folding texts with `+` joins them** with the seed between neighbours. -/
theorem reduce_texts (seed : String) (texts : List String) :
    reduce plus (texts.map .text) (.text seed) = .ok (.text (seed.intercalate texts)) := by
  cases texts with
  | nil => rw [String.intercalate_nil, List.map_nil, reduce, Value.zeroLike]
  | cons first rest => exact reduceFrom_texts seed first rest

theorem splitLiteral_of_ne_empty {d : String} (hd : d ≠ "") (t : String) :
    splitLiteral (.text t) (.text d) =
      .ok (.list (((Text.dropInner (Text.split d.toList t.toList)).map String.ofList).map .text)) := by
  rw [splitLiteral, if_neg (by simpa using hd), textList, List.map_map]
  rfl

/-- What is folded from the pieces is the text that they make up. -/
theorem toList_intercalate_pieces (d t : String) :
    (d.intercalate ((Text.dropInner (Text.split d.toList t.toList)).map String.ofList)).toList =
      Text.rejoined d.toList t.toList := by
  have pieces (pieces : List (List Char)) : (pieces.map String.ofList).map String.toList = pieces := by
    rw [List.map_map]
    exact List.map_id'' (fun _ => String.toList_ofList) pieces
  rw [String.toList_intercalate, pieces, ← Text.join_eq_intercalate, Text.rejoined]

/-- **Splitting and joining.** A text that is split at a delimiter and folded with it comes back with every run
of delimiters written once. It comes back as it was if and only if no piece in between is empty. Any texts,
folded with a text as seed, are joined by it; no texts give the empty one. -/
theorem join_after_split :
    (∀ t d : String, d ≠ "" → ∃ pieces s,
      doubleCaret.apply (.text t) (.text d) = .ok (.list pieces) ∧
      reduce plus pieces (.text d) = .ok (.text s) ∧
      (∀ cs, Text.Collapsed d.toList t.toList cs ↔ cs = s.toList) ∧
      (s = t ↔ ∀ piece ∈ (Text.split d.toList t.toList).tail.dropLast, piece ≠ [])) ∧
    ∀ (d : String) (texts : List String),
      reduce plus (texts.map .text) (.text d) = .ok (.text (d.intercalate texts)) := by
  refine ⟨fun t d hd => ?_, reduce_texts⟩
  have delimiter : d.toList ≠ [] := by simpa using hd
  refine ⟨_, _, splitLiteral_of_ne_empty hd t, reduce_texts d _, fun cs => ?_, ?_⟩
  · rw [toList_intercalate_pieces, Text.collapsed_iff delimiter]
  · rw [← String.toList_inj, toList_intercalate_pieces, Text.rejoined_eq_iff delimiter]

end Fiction.Operator
