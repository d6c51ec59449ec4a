import Fiction.Proofs.Markup.Extent

/-!
# Fiction.Proofs.Markup.Shift

**Where a text stands changes the positions of what is found in it, and nothing else.** `shift k` is
the same thing `k` bytes further on. There is one for ranges, fragments, calls, links, segments and
flaws.

* `shifted k f` is what a scanner gives on a text that was shifted: what it finds becomes what `f` says,
  and a flaw is shifted. `shifted_bind` goes through the steps of a scanner.
* `scan_shift` and `singleCall_shift` are the results.

A fragment is the one with the same characters at the start of a text, shifted to its position. So two
fragments with the same characters are shifts of one.
-/

namespace Fiction

/-! ## Shifting -/

def Span.shift (k : Nat) (s : Span) : Span :=
  ⟨k + s.start, k + s.stop⟩

def Fragment.shift (k : Nat) (f : Fragment) : Fragment :=
  ⟨k + f.offset, f.chars⟩

def Call.shift (k : Nat) (c : Call) : Call :=
  ⟨c.name, c.args.map (·.shift k), c.source.shift k⟩

def LinkText.shift (k : Nat) (l : LinkText) : LinkText :=
  ⟨l.label.shift k, l.target.shift k, l.traversal.map (·.shift k), l.span.shift k⟩

def Segment.shift (k : Nat) : Segment → Segment
  | .text f => .text (f.shift k)
  | .call c => .call (c.shift k)
  | .link l => .link (l.shift k)

def Flaw.shift (k : Nat) (flaw : Flaw) : Flaw :=
  { flaw with span := flaw.span.shift k }

/-- What is read from a text that was shifted. -/
def shifted {α β : Type} (k : Nat) (f : α → β) : Except Flaw α → Except Flaw β
  | .ok a => .ok (f a)
  | .error flaw => .error (flaw.shift k)

section

variable {α α' β β' : Type} {k : Nat} {f : α → α'} {g : β → β'} {x : Except Flaw α}

/-- Steps that are shifted one by one are shifted together. -/
theorem shifted_bind {y : α → Except Flaw β} {y' : α' → Except Flaw β'}
    (h : ∀ a, y' (f a) = shifted k g (y a)) : shifted k f x >>= y' = shifted k g (x >>= y) := by
  cases x with
  | ok a => exact h a
  | error flaw => rfl

theorem shifted_map {h : α → β} {h' : α' → β'} (comm : ∀ a, h' (f a) = g (h a)) :
    h' <$> shifted k f x = shifted k g (h <$> x) := by
  cases x with
  | ok a => exact congrArg Except.ok (comm a)
  | error flaw => rfl

end

/-! ## Fragments -/

theorem Span.join_shift (k : Nat) (a b : Span) : (a.shift k).join (b.shift k) = (a.join b).shift k := by
  simp only [join, shift, Nat.add_min_add_left, Nat.add_max_add_left]

namespace Fragment

variable (k : Nat) (f : Fragment)

@[simp] theorem chars_shift : (f.shift k).chars = f.chars := rfl

@[simp] theorem isBlank_shift : (f.shift k).isBlank = f.isBlank := rfl

@[simp] theorem stop_shift : (f.shift k).stop = k + f.stop :=
  Nat.add_assoc _ _ _

@[simp] theorem span_shift : (f.shift k).span = f.span.shift k := by
  rw [span, stop_shift]
  rfl

@[simp] theorem trim_shift : (f.shift k).trim = f.trim.shift k := by
  rw [trim, trim, shift, shift, Nat.add_assoc]

/-- Fragments with the same characters are shifts of one. -/
theorem eq_shift {f g : Fragment} (h : g.chars = f.chars) :
    g = (⟨0, f.chars⟩ : Fragment).shift g.offset := by
  rw [shift, ← h]
  rfl

theorem place_shift (delimiter : Char) (offset : Nat) (pieces : List (List Char)) :
    place delimiter (k + offset) pieces = (place delimiter offset pieces).map (·.shift k) := by
  induction pieces generalizing offset with
  | nil => rfl
  | cons piece rest ih =>
      rw [place, place, List.map_cons, ← ih, ← Nat.add_assoc, ← Nat.add_assoc]
      rfl

theorem splitTop_shift (b : Bracketing) (delimiter : Char) :
    (f.shift k).splitTop b delimiter = (f.splitTop b delimiter).map (·.shift k) :=
  place_shift k delimiter f.offset _

theorem quotedBody?_shift : (f.shift k).quotedBody? = f.quotedBody?.map (·.shift k) := by
  unfold quotedBody?
  dsimp only
  rw [trim_shift, chars_shift]
  split
  · simp [shift, Nat.add_assoc]
  · rfl

theorem inside_shift :
    (f.shift k).quotedBody?.getD (f.shift k).trim = (f.quotedBody?.getD f.trim).shift k := by
  rw [quotedBody?_shift, trim_shift]
  cases f.quotedBody? with
  | none => rfl
  | some body => rfl

theorem PartOf.shift {f g : Fragment} (h : f.PartOf g) : (f.shift k).PartOf (g.shift k) := by
  obtain ⟨before, after, text, position⟩ := h
  refine ⟨before, after, text, ?_⟩
  rw [Fragment.shift, Fragment.shift, position, Nat.add_assoc]

end Fragment

theorem Span.Within.shift {s : Span} {f : Fragment} (h : s.Within f) (k : Nat) :
    (s.shift k).Within (f.shift k) := by
  refine ⟨Nat.add_le_add_left h.lower k, Nat.add_le_add_left h.ordered k, ?_⟩
  rw [f.stop_shift]
  exact Nat.add_le_add_left h.upper k

namespace Markup

variable (k : Nat)

/-! ## Calls -/

theorem arguments_shift (body : Fragment) :
    arguments (body.shift k) = (arguments body).map (·.shift k) := by
  have parts (f : Fragment) : (if (f.shift k).isBlank then [] else (f.shift k).splitTop .argument '~') =
      (if f.isBlank then [] else f.splitTop .argument '~').map (·.shift k) := by
    rw [f.isBlank_shift, f.splitTop_shift]
    split
    · rfl
    · rfl
  unfold arguments
  dsimp only [Fragment.chars_shift]
  split
  · rw [← parts, Fragment.drop, Fragment.drop, Fragment.shift, Fragment.shift, Nat.add_assoc]
  · exact parts body

theorem buildCall_shift (offset : Nat) (opening : Char) (name body : List Char) :
    buildCall (k + offset) opening name body = (buildCall offset opening name body).shift k := by
  have args := arguments_shift k ⟨offset + opening.utf8Size + Text.byteLength name + 1, body⟩
  simp only [Fragment.shift, ← Nat.add_assoc] at args
  simp only [buildCall, args, Call.shift, Fragment.shift]

theorem lastQuote_shift (n : Nesting) (pos found : Nat) (cs : List Char) :
    lastQuote n (k + pos) (k + found) cs = k + lastQuote n pos found cs := by
  induction cs generalizing n pos found with
  | nil => rfl
  | cons c cs ih =>
      rw [lastQuote, lastQuote, Nat.add_assoc, ← apply_ite (k + ·), ih]

theorem unclosedCall_shift (name : String) (offset : Nat) (text : List Char) :
    unclosedCall name (k + offset) text = (unclosedCall name offset text).shift k := by
  unfold unclosedCall
  dsimp only
  rw [lastQuote_shift, Nat.add_assoc]
  split
  · rfl
  · rfl

/-! ## Links -/

theorem buildLink_shift (span : Span) (inner : Fragment) :
    buildLink (span.shift k) (inner.shift k) = shifted k (·.shift k) (buildLink span inner) := by
  have build (label target : Fragment) (traversal : Option Fragment) :
      (if (target.shift k).isBlank then .error (.of (.malformedLink .noTarget) (span.shift k))
        else .ok (LinkText.shift k ⟨label, target, traversal, span⟩) : Except Flaw LinkText) =
      shifted k (LinkText.shift k) (if target.isBlank then .error (.of (.malformedLink .noTarget) span)
        else .ok ⟨label, target, traversal, span⟩) := by
    rw [target.isBlank_shift]
    split
    · rfl
    · rfl
  unfold buildLink
  rw [inner.splitTop_shift]
  rcases inner.splitTop .link '|' with _ | ⟨a, _ | ⟨b, _ | ⟨c, _ | ⟨d, parts⟩⟩⟩⟩
  · rfl
  · exact build a a none
  · exact build a b none
  · exact build a b (some c)
  · simp only [List.map_cons, List.length_cons, List.length_map]
    rfl

/-! ## Segments -/

theorem consText_shift (offset : Nat) (c : Char) (segments : List Segment) :
    consText (k + offset) c (segments.map (·.shift k)) =
      (consText offset c segments).map (·.shift k) := by
  rcases segments with _ | ⟨_ | _ | _, rest⟩
  · rfl
  · rfl
  · rfl
  · rfl

/-- A link of the scanner. -/
theorem scannedLink_shift (offset : Nat) (inner : List Char) :
    buildLink ⟨k + offset, k + offset + 2 + Text.byteLength inner + 2⟩ ⟨k + offset + 2, inner⟩ =
      shifted k (·.shift k)
        (buildLink ⟨offset, offset + 2 + Text.byteLength inner + 2⟩ ⟨offset + 2, inner⟩) := by
  rw [← buildLink_shift]
  simp only [Span.shift, Fragment.shift, Nat.add_assoc]

/-- Scanning from a position that was shifted. -/
theorem scanFrom_shift (offset : Nat) (escaped : Bool) (cs : List Char) :
    scanFrom (k + offset) escaped cs =
      shifted k (List.map (·.shift k)) (scanFrom offset escaped cs) := by
  -- a character of plain text in front of a text that is scanned
  have plain {offset : Nat} {escaped flag : Bool} {c : Char} {cs : List Char}
      (hflag : (!escaped && decide (c = '\\')) = flag) (hc : IsPlainAt escaped c cs)
      (ih : scanFrom (k + (offset + c.utf8Size)) flag cs =
        shifted k (List.map (·.shift k)) (scanFrom (offset + c.utf8Size) flag cs)) :
      scanFrom (k + offset) escaped (c :: cs) =
        shifted k (List.map (·.shift k))
          (consText offset c <$> scanFrom (offset + c.utf8Size) flag cs) := by
    rw [scanFrom_plain hc, hflag, Nat.add_assoc, ih]
    exact shifted_map (consText_shift k offset c)
  fun_induction scanFrom offset escaped cs
  case case1 =>
    rw [scanFrom]
    rfl
  case case2 ih => exact plain rfl (.inl rfl) ih
  case case3 unescaped _ ih =>
    exact plain (by simp [unescaped]) (.inr (.inl rfl)) ih
  case case4 unescaped hname _ _ ih =>
    exact plain (by simp) (.inr (.inr ⟨fun _ => hname, by simp⟩)) ih
  case case10 unescaped hslash hopen hlink ih =>
    simp only [Bool.and_eq_true, decide_eq_true_eq, beq_iff_eq, not_and] at hlink
    exact plain (by simp [hslash]) (.inr (.inr ⟨fun ho => absurd ho hopen, hlink⟩)) ih
  case case5 unescaped name after hname hbody _ =>
    simp only [Bool.not_eq_true] at unescaped
    rw [unescaped, scanFrom_unclosedCall hname hbody, unclosedCall_shift]
    rfl
  case case6 unescaped name after hname body rest hbody _ call ih =>
    simp only [Bool.not_eq_true] at unescaped
    rw [unescaped, scanFrom_call hname hbody, buildCall_shift, Call.shift, Fragment.stop_shift, ih]
    exact shifted_map fun _ => rfl
  case case7 unescaped _ _ hlink hinner =>
    simp only [Bool.not_eq_true] at unescaped
    obtain ⟨rfl, tail, rfl⟩ := opensLink hlink
    rw [List.drop_one, List.tail_cons] at hinner
    rw [unescaped, scanFrom_unclosedLink hinner, Nat.add_assoc]
    rfl
  case case8 unescaped _ _ hlink inner rest hinner stop flaw hbuild =>
    simp only [Bool.not_eq_true] at unescaped
    obtain ⟨rfl, tail, rfl⟩ := opensLink hlink
    rw [List.drop_one, List.tail_cons] at hinner
    rw [unescaped, scanFrom_link hinner, scannedLink_shift, hbuild]
    rfl
  case case9 unescaped _ _ hlink inner rest hinner stop link hbuild ih =>
    simp only [Bool.not_eq_true] at unescaped
    obtain ⟨rfl, tail, rfl⟩ := opensLink hlink
    rw [List.drop_one, List.tail_cons] at hinner
    have behind : ∀ offset, k + offset + 2 + Text.byteLength inner + 2 =
        k + (offset + 2 + Text.byteLength inner + 2) := by
      intro offset
      omega
    rw [unescaped, scanFrom_link hinner, scannedLink_shift, hbuild, behind, ih]
    exact shifted_map fun _ => rfl

/-- **What scanning finds in a text depends on where it stands in its positions only.** -/
theorem scan_shift (f : Fragment) :
    scan (f.shift k) = shifted k (List.map (·.shift k)) (scan f) :=
  scanFrom_shift k f.offset false f.chars

theorem singleCall_shift (f : Fragment) :
    singleCall (f.shift k) = shifted k (Option.map (·.shift k)) (singleCall f) := by
  unfold singleCall
  rw [f.trim_shift]
  obtain ⟨offset, cs⟩ := f.trim
  cases cs with
  | nil => rfl
  | cons c cs =>
      unfold Fragment.shift
      dsimp only
      split
      · rfl
      · split
        · rfl
        · rw [unclosedCall_shift]
          split
          · rfl
          · rw [buildCall_shift]
            rfl
          · rfl

end Markup

end Fiction
