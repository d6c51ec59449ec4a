import Fiction.Proofs.Path
import Fiction.Proofs.Value.Exchange
import Fiction.Story.Command

/-!
# Fiction.Proofs.Story.Command

**Literal commands are read as they are written.**

* `Command.Parsed` says what commands come out of `Command.parse`: a verb, a proper path and, unless
  the verb is `invert`, the value of a data tree.
* `parse_text`: such a command without reals is read from its text.
-/

namespace Fiction

namespace Json

theorem WrittenItems.getLast?_eq {items : List Json} {cs : List Char} (h : WrittenItems items cs) :
    cs.getLast? = some ']' := by
  induction items generalizing cs with
  | nil => cases h
  | cons j items ih =>
      cases h with
      | last tree blanks => simp
      | more tree blanks rest => simp [List.getLast?_cons, ih rest]

theorem WrittenMembers.getLast?_eq {members : List (String × Json)} {cs : List Char}
    (h : WrittenMembers members cs) : cs.getLast? = some '\x7d' := by
  induction members generalizing cs with
  | nil => cases h
  | cons member members ih =>
      cases h with
      | last gap tree blanks => simp [List.getLast?_cons]
      | more gap tree blanks rest => simp [List.getLast?_cons, ih rest]

theorem visible_ofInt (n : Int) : ∀ c ∈ (Decimal.ofInt n).toList, Text.isBlank c = false := by
  have digits (k : Nat) : ∀ c ∈ Decimal.digits k, Text.isBlank c = false :=
    fun c hc => Decimal.isBlank_of_isDigit (Decimal.isDigit_of_mem_digits hc)
  cases n with
  | ofNat k =>
      rw [Decimal.ofInt, String.toList_ofList]
      exact digits k
  | negSucc k =>
      have text : (Decimal.ofInt (.negSucc k)).toList = '-' :: Decimal.digits (k + 1) := by
        simp [Decimal.ofInt]
      rw [text]
      exact List.forall_mem_cons.mpr ⟨rfl, digits (k + 1)⟩

/-- Trees are written without blanks around them. -/
theorem Written.framed {j : Json} {cs : List Char} (h : Written j cs) : Text.Framed cs := by
  refine ⟨?_, ?_⟩
  · obtain ⟨c, ds, rfl, visible, -⟩ := h.exists_cons
    exact ⟨c, rfl, visible⟩
  · cases h with
    | null => exact ⟨'l', rfl, rfl⟩
    | bool b =>
        cases b with
        | true => exact ⟨'e', rfl, rfl⟩
        | false => exact ⟨'e', rfl, rfl⟩
    | int n =>
        obtain ⟨c, ds, hcs, -⟩ := exists_cons_ofInt n.toInt
        exact (Text.framed_of_no_blanks (by simp [hcs]) (visible_ofInt n.toInt)).2
    | text s =>
        rw [toList_quote, ← List.cons_append, List.getLast?_concat]
        exact ⟨'"', rfl, rfl⟩
    | arrayNil => exact ⟨']', rfl, rfl⟩
    | array _ items =>
        rw [← List.cons_append, List.getLast?_append, items.getLast?_eq]
        exact ⟨']', rfl, rfl⟩
    | objectNil => exact ⟨'\x7d', rfl, rfl⟩
    | object _ members =>
        rw [← List.cons_append, List.getLast?_append, members.getLast?_eq]
        exact ⟨'\x7d', rfl, rfl⟩

end Json

namespace Command

/-- The value of a literal command. -/
def value? : Command → Option Value
  | call _ _ => none
  | literal _ _ value => value

/-- No part of the command's value is a real. -/
def RealFree (c : Command) : Prop :=
  ∀ v ∈ c.value?, v.RealFree

instance (c : Command) : Decidable c.RealFree :=
  inferInstanceAs (Decidable (∀ v ∈ c.value?, v.RealFree))

/-- The commands that are read. -/
inductive Parsed : Command → Prop
  | bare {path : Path} : path.IsProper → Parsed (.literal .invert path none)
  | valued {verb : Verb} {path : Path} {tree : Json} : verb ≠ .invert → path.IsProper →
      tree.depth ≤ Json.nestingLimit → Parsed (.literal verb path (some (.ofSorted tree)))

theorem parsed_of_parse {s : String} {c : Command} (h : parse s = .ok c) : c.Parsed := by
  unfold parse at h
  simp only at h
  split at h
  · cases h
  · next verb found =>
      split at h
      · cases h
      · next path hpath =>
          have proper := Path.isProper_of_parse hpath
          split at h
          · cases h
            exact .bare proper
          · cases h
          · cases h
          · next other _ =>
              split at h
              · next tree read =>
                  cases h
                  exact .valued other proper (Json.depth_le_of_parse? read)
              · cases h

section

variable {word : List Char} (h : ∀ c ∈ word, Text.isBlank c = false)
include h

theorem ne_space_of_visible : ∀ c ∈ word, (c != ' ') = true := by
  intro c hc
  rw [bne_iff_ne]
  rintro rfl
  cases h ' ' hc

theorem splitWord_append (rest : List Char) : splitWord (word ++ ' ' :: rest) = (word, rest) := by
  have plain := ne_space_of_visible h
  rw [splitWord, List.takeWhile_append_of_pos plain, List.dropWhile_append_of_pos plain]
  simp

theorem splitWord_of_no_blanks : splitWord word = (word, []) := by
  have plain := ne_space_of_visible h
  have taken : (word ++ []).takeWhile (· != ' ') = word ++ [] := List.takeWhile_append_of_pos plain
  have dropped : (word ++ []).dropWhile (· != ' ') = [] := List.dropWhile_append_of_pos plain
  rw [List.append_nil] at taken dropped
  rw [splitWord, taken, dropped, List.drop_nil]

end

theorem visible_name (v : Verb) : ∀ c ∈ v.name.toList, Text.isBlank c = false := by
  cases v <;> exact List.all_iff_forall_prop.mp (by decide)

variable {path : Path}

theorem framed_name (v : Verb) : Text.Framed v.name.toList :=
  Text.framed_of_no_blanks (by cases v <;> decide) (visible_name v)

/-- `invert` is read with its path. -/
theorem parse_bare (h : path.IsProper) :
    parse (literal .invert path none).text = .ok (literal .invert path none) := by
  have chars : (literal .invert path none).text.toList =
      Verb.invert.name.toList ++ ' ' :: path.text.toList := by
    simp [text, toString]
  have trimmed : Text.trim (Verb.invert.name.toList ++ ' ' :: path.text.toList) =
      Verb.invert.name.toList ++ ' ' :: path.text.toList :=
    ((framed_name .invert).append h.framed [' ']).trim_eq
  unfold parse
  simp only [chars, trimmed, splitWord_append (visible_name .invert), String.ofList_toList,
    Verb.ofName?_name, h.framed.trimStart_eq, splitWord_of_no_blanks h.isBlank_of_mem_text,
    Path.parse_text h]
  rfl

/-- A verb with a value is read with its path and the value. -/
theorem parse_valued {verb : Verb} (hverb : verb ≠ .invert) (h : path.IsProper) {v : Value}
    (written : Json.Written v.toSorted v.toSorted.compact.toList)
    (deep : v.toSorted.depth ≤ Json.nestingLimit) :
    parse (literal verb path (some v)).text =
      .ok (literal verb path (some (.ofSorted v.toSorted))) := by
  have chars : (literal verb path (some v)).text.toList =
      verb.name.toList ++ ' ' :: (path.text.toList ++ ' ' :: v.toSorted.compact.toList) := by
    simp [text, toString]
  -- the command is trimmed as a whole and again behind its verb, which changes nothing
  have words : Text.Framed (path.text.toList ++ ' ' :: v.toSorted.compact.toList) :=
    h.framed.append written.framed [' ']
  have trimmed := ((framed_name verb).append words [' ']).trim_eq
  rw [List.singleton_append] at trimmed
  have some : v.toSorted.compact.toList.isEmpty = false := by
    obtain ⟨c, ds, hcs, -⟩ := written.exists_cons
    rw [hcs]
    rfl
  unfold parse
  simp only [chars, trimmed, splitWord_append (visible_name verb), String.ofList_toList,
    Verb.ofName?_name, words.trimStart_eq, splitWord_append h.isBlank_of_mem_text,
    Path.parse_text h, written.framed.trim_eq, some, Json.parse?_of_written written deep]

/-- **A literal command without reals is read from its text.** -/
theorem parse_text_of_parsed {c : Command} (h : c.Parsed) (hreal : c.RealFree) :
    parse c.text = .ok c := by
  cases h with
  | bare proper => exact parse_bare proper
  | @valued verb path tree other proper deep =>
      have hreal : (Value.ofSorted tree).RealFree := hreal _ rfl
      rw [parse_valued other proper (Json.written_compact (Value.isRealFree_toSorted hreal))
        (Value.depth_toSorted_ofSorted_le deep),
        Value.ofSorted_toSorted (Value.inOrder_ofSorted tree) hreal]

end Command

end Fiction
