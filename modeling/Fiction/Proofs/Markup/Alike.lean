import Fiction.Proofs.Markup.Shift
import Fiction.Story.Traversal
import Mathlib.Data.List.Forall2

/-!
# Fiction.Proofs.Markup.Alike

**Reading two texts side by side.** Where the same characters stand in two texts, the same is read from
both, and only the positions may be different.

* `Matching clean placed` says which fragments of the two texts correspond and which ranges do. Parts of
  corresponding fragments correspond, as far as they are the same part.
* `Call.Alike`, `LinkText.Alike` and `Segment.Alike` are calls, links and segments of which all parts
  correspond.
* `Parallel` is two results that are both there and related, or the same flaw at corresponding places.

`Matching.scan` is the result for markup and `Matching.commands` the one for the commands of links.
-/

namespace Fiction

/-- Related lists have related elements at each place. -/
theorem forall₂_getElem? {α β : Type} {R : α → β → Prop} {xs : List α} {ys : List β}
    (h : List.Forall₂ R xs ys) (index : Nat) : Option.Rel R xs[index]? ys[index]? := by
  induction h generalizing index with
  | nil => exact .none
  | cons first _ ih =>
      cases index with
      | zero => exact .some first
      | succ index => simpa using ih index

theorem forall₂_isEmpty {α β : Type} {R : α → β → Prop} {xs : List α} {ys : List β}
    (h : List.Forall₂ R xs ys) : ys.isEmpty = xs.isEmpty := by
  cases h with
  | nil => rfl
  | cons _ _ => rfl

/-! ## Corresponding parts of two texts -/

/-- Which fragments and which ranges of two texts correspond. -/
structure Matching (clean : Fragment → Fragment → Prop) (placed : Span → Span → Prop) : Prop where
  /-- The same characters stand there. -/
  chars : ∀ {f g : Fragment}, clean f g → g.chars = f.chars
  /-- The same part of both corresponds. -/
  piece : ∀ {f g : Fragment} {a b : Nat}, clean (f.shift a) (f.shift b) → g.PartOf f →
    clean (g.shift a) (g.shift b)
  /-- And so does the same range in both. -/
  within : ∀ {f : Fragment} {s : Span} {a b : Nat}, clean (f.shift a) (f.shift b) → s.Within f →
    placed (s.shift a) (s.shift b)
  /-- Ranges that cover corresponding ranges correspond. -/
  join : ∀ {s t s' t' : Span}, placed s s' → placed t t' → placed (s.join t) (s'.join t')

/-- Calls of one name with corresponding starts, sources and arguments. -/
structure Call.Alike (clean : Fragment → Fragment → Prop) (c c' : Call) : Prop where
  name : c'.name = c.name
  head : clean ⟨c.source.offset, callHead c.name⟩ ⟨c'.source.offset, callHead c.name⟩
  source : clean c.source c'.source
  args : List.Forall₂ clean c.args c'.args

/-- Two results that are related, or the same flaw at corresponding places. -/
inductive Parallel {α β : Type} (placed : Span → Span → Prop) (V : α → β → Prop) :
    Except Flaw α → Except Flaw β → Prop
  | ok {a b} : V a b → Parallel placed V (.ok a) (.ok b)
  | error {flaw flaw' : Flaw} : flaw'.cause = flaw.cause → flaw'.call = flaw.call →
      placed flaw.span flaw'.span → Parallel placed V (.error flaw) (.error flaw')

section

variable {α α' β β' : Type} {placed : Span → Span → Prop} {V : α → α' → Prop} {W : β → β' → Prop}

theorem Parallel.bind {x : Except Flaw α} {x' : Except Flaw α'} {f : α → Except Flaw β}
    {f' : α' → Except Flaw β'} (h : Parallel placed V x x')
    (hf : ∀ a a', V a a' → Parallel placed W (f a) (f' a')) :
    Parallel placed W (x >>= f) (x' >>= f') := by
  cases h with
  | ok value => exact hf _ _ value
  | error cause call place => exact .error cause call place

theorem Parallel.mono {V' : α → α' → Prop} {x : Except Flaw α} {x' : Except Flaw α'}
    (h : Parallel placed V x x') (hV : ∀ a a', V a a' → V' a a') : Parallel placed V' x x' := by
  cases h with
  | ok value => exact .ok (hV _ _ value)
  | error cause call place => exact .error cause call place

/-- What is read from two shifts of one text. -/
theorem Parallel.shifted {γ : Type} {a b : Nat} {f : γ → α} {g : γ → α'} {P : γ → Prop}
    {x : Except Flaw γ} (h : Sound (fun s => placed (s.shift a) (s.shift b)) P x)
    (hV : ∀ v, P v → V (f v) (g v)) : Parallel placed V (shifted a f x) (shifted b g x) := by
  cases x with
  | ok v => exact .ok (hV v h)
  | error flaw => exact .error rfl rfl h

end

section

variable {clean : Fragment → Fragment → Prop} {placed : Span → Span → Prop}
  (matching : Matching clean placed) {f f' : Fragment} {c c' : Call}

include matching

namespace Matching

/-- Corresponding fragments are shifts of one. -/
theorem exists_shift (h : clean f f') :
    ∃ (base : Fragment) (a b : Nat), f = base.shift a ∧ f' = base.shift b :=
  ⟨⟨0, f.chars⟩, f.offset, f'.offset, Fragment.eq_shift rfl, Fragment.eq_shift (matching.chars h)⟩

theorem isBlank (h : clean f f') : f'.isBlank = f.isBlank := by
  rw [Fragment.isBlank, Fragment.isBlank, matching.chars h]

theorem span (h : clean f f') : placed f.span f'.span := by
  obtain ⟨base, a, b, rfl, rfl⟩ := matching.exists_shift h
  rw [base.span_shift, base.span_shift]
  exact matching.within h (Fragment.PartOf.refl base).span_within

/-- The ends of corresponding fragments. -/
theorem stop (h : clean f f') : clean ⟨f.stop, []⟩ ⟨f'.stop, []⟩ := by
  obtain ⟨base, a, b, rfl, rfl⟩ := matching.exists_shift h
  rw [base.stop_shift, base.stop_shift]
  exact matching.piece h base.end_partOf

theorem trim (h : clean f f') : clean f.trim f'.trim := by
  obtain ⟨base, a, b, rfl, rfl⟩ := matching.exists_shift h
  rw [base.trim_shift, base.trim_shift]
  exact matching.piece h base.trim_partOf

/-- The insides of quoted texts. -/
theorem inside (h : clean f f') :
    clean (f.quotedBody?.getD f.trim) (f'.quotedBody?.getD f'.trim) := by
  obtain ⟨base, a, b, rfl, rfl⟩ := matching.exists_shift h
  rw [base.inside_shift, base.inside_shift]
  exact matching.piece h base.inside_partOf

theorem splitTop (h : clean f f') (b : Bracketing) (delimiter : Char) :
    List.Forall₂ clean (f.splitTop b delimiter) (f'.splitTop b delimiter) := by
  obtain ⟨base, k, k', rfl, rfl⟩ := matching.exists_shift h
  rw [base.splitTop_shift, base.splitTop_shift, List.forall₂_map_left_iff, List.forall₂_map_right_iff,
    List.forall₂_same]
  exact fun part hpart => matching.piece h (Fragment.mem_splitTop hpart)

/-- A call that stands in both texts. -/
theorem call {a b : Nat} (h : clean (f.shift a) (f.shift b)) (hc : c.Within f) :
    (c.shift a).Alike clean (c.shift b) where
  name := rfl
  head := matching.piece h hc.head
  source := matching.piece h hc.source
  args := by
    rw [Call.shift, Call.shift, List.forall₂_map_left_iff, List.forall₂_map_right_iff,
      List.forall₂_same]
    exact fun arg harg => matching.piece h (hc.args arg harg)

theorem callSpan (h : c.Alike clean c') : placed c.span c'.span :=
  matching.span h.source

end Matching

/-! ## Commands of links -/

namespace Traversal

theorem checkCount_parallel (h : c.Alike clean c') (expected : Nat) :
    Parallel placed Eq (checkCount c expected) (checkCount c' expected) := by
  unfold checkCount
  rw [h.name, h.args.length_eq]
  split
  · exact .ok rfl
  · exact .error rfl rfl (matching.callSpan h)

theorem checkPresent_parallel (h : c.Alike clean c') (index : Nat) (flaw : CallFlaw) :
    Parallel placed Eq (checkPresent c index flaw) (checkPresent c' index flaw) := by
  have place := matching.callSpan h
  have found := forall₂_getElem? h.args index
  unfold checkPresent
  rw [h.name]
  generalize c.args[index]? = arg, c'.args[index]? = arg' at found ⊢
  cases found with
  | none => exact .error rfl rfl place
  | some arg =>
      dsimp only
      rw [matching.isBlank arg]
      split
      · exact .error rfl rfl place
      · exact .ok rfl

theorem checkArguments_parallel (verb : Verb) (h : c.Alike clean c') :
    Parallel placed Eq (checkArguments verb c) (checkArguments verb c') := by
  have path := checkPresent_parallel matching h 0 .missingPath
  have both : Parallel placed Eq
      (do
        checkCount c 2
        checkPresent c 1 .missingValue
        checkPresent c 0 .missingPath)
      (do
        checkCount c' 2
        checkPresent c' 1 .missingValue
        checkPresent c' 0 .missingPath) :=
    (checkCount_parallel matching h 2).bind fun _ _ _ =>
      (checkPresent_parallel matching h 1 .missingValue).bind fun _ _ _ => path
  cases verb with
  | set => exact both
  | add => exact both
  | invert => exact (checkCount_parallel matching h 1).bind fun _ _ _ => path

end Traversal

end

/-- Segments that correspond, with links that are related. -/
inductive Segment.Alike (clean : Fragment → Fragment → Prop) (placed : Span → Span → Prop)
    (link : LinkText → LinkText → Prop) : Segment → Segment → Prop
  | text {f f' : Fragment} : f'.chars = f.chars → placed f.trim.span f'.trim.span →
      Alike clean placed link (.text f) (.text f')
  | call {c c' : Call} : c.Alike clean c' → Alike clean placed link (.call c) (.call c')
  | link {l l' : LinkText} : link l l' → Alike clean placed link (.link l) (.link l')

section

variable {clean : Fragment → Fragment → Prop} {placed : Span → Span → Prop}
  (matching : Matching clean placed) {f f' : Fragment}

include matching

/-- Scanning two shifts of one text. -/
theorem Matching.scan_shift {link : LinkText → LinkText → Prop} {a b : Nat}
    (h : clean (f.shift a) (f.shift b))
    (hlink : ∀ l : LinkText, l.Within f → link (l.shift a) (l.shift b)) :
    Parallel placed (List.Forall₂ (Segment.Alike clean placed link)) (Markup.scan (f.shift a))
      (Markup.scan (f.shift b)) := by
  rw [Markup.scan_shift, Markup.scan_shift]
  have found : Sound (fun s => placed (s.shift a) (s.shift b))
      (fun segments => ∀ segment ∈ segments, segment.Within f) (Markup.scan f) :=
    (Markup.scan_sound f).mono (fun _ hs => matching.within h hs) fun _ h => h
  refine Parallel.shifted found fun segments hsegments => ?_
  rw [List.forall₂_map_left_iff, List.forall₂_map_right_iff, List.forall₂_same]
  intro segment hsegment
  have within := hsegments segment hsegment
  cases segment with
  | text t =>
      refine .text rfl ?_
      rw [t.trim_shift, t.trim_shift, Fragment.span_shift, Fragment.span_shift]
      exact matching.within h within.trim
  | call c => exact .call (matching.call h within)
  | link l => exact .link (hlink l within)

theorem Traversal.ofSegments_parallel {segments segments' : List Segment}
    (h : List.Forall₂ (Segment.Alike clean placed fun l l' => placed l.span l'.span) segments
      segments') :
    Parallel placed Eq (ofSegments segments) (ofSegments segments') := by
  induction h with
  | nil => exact .ok rfl
  | cons first _ ih =>
      cases first with
      | text same place =>
          rw [ofSegments, ofSegments, Fragment.isBlank, Fragment.isBlank, same]
          split
          · exact ih
          · exact .error rfl rfl place
      | link place => exact .error rfl rfl place
      | @call c c' alike =>
          rw [ofSegments, ofSegments, alike.name]
          split
          · exact .error rfl rfl (matching.callSpan alike)
          · refine (checkArguments_parallel matching _ alike).bind fun _ _ _ => ?_
            refine ih.bind fun commands _ same => .ok ?_
            rw [same, Fragment.text, Fragment.text, matching.chars alike.source]

/-- The commands in corresponding fragments are the same. -/
theorem Matching.commands (h : clean f f') :
    Parallel placed Eq (Traversal.commands f) (Traversal.commands f') := by
  obtain ⟨base, a, b, rfl, rfl⟩ := matching.exists_shift h
  have scanned : Parallel placed
      (List.Forall₂ (Segment.Alike clean placed fun l l' => placed l.span l'.span))
      (Markup.scan (base.shift a)) (Markup.scan (base.shift b)) :=
    matching.scan_shift h fun l hl => matching.within h hl.span
  exact scanned.bind fun _ _ alike => Traversal.ofSegments_parallel matching alike

end

/-! ## Links -/

/-- The commands of a link, which may have none. -/
def LinkText.commands (l : LinkText) : Except Flaw (List Command) :=
  match l.traversal with
  | some traversal => Traversal.commands traversal
  | none => .ok []

/-- Links with corresponding labels, targets and ranges, and with commands that are related. -/
structure LinkText.Alike (clean : Fragment → Fragment → Prop) (placed : Span → Span → Prop)
    (related : List Command → List Command → Prop) (l l' : LinkText) : Prop where
  label : clean l.label l'.label
  target : clean l.target l'.target
  span : placed l.span l'.span
  commands : Parallel placed related l.commands l'.commands

/-- What scanning two texts gives corresponds: segment by segment, or as the same flaw. -/
def Scanned (clean : Fragment → Fragment → Prop) (placed : Span → Span → Prop)
    (related : List Command → List Command → Prop) :
    Except Flaw (List Segment) → Except Flaw (List Segment) → Prop :=
  Parallel placed (List.Forall₂ (Segment.Alike clean placed (LinkText.Alike clean placed related)))

section

variable {clean : Fragment → Fragment → Prop} {placed : Span → Span → Prop}
  (matching : Matching clean placed) {f f' : Fragment} {related : List Command → List Command → Prop}
  (hrelated : ∀ commands, related commands commands)

include matching hrelated

/-- A link that stands in both texts. -/
theorem Matching.link {a b : Nat} {l : LinkText} (h : clean (f.shift a) (f.shift b))
    (hl : l.Within f) : (l.shift a).Alike clean placed related (l.shift b) where
  label := matching.piece h hl.label
  target := matching.piece h hl.target
  span := matching.within h hl.span
  commands := by
    unfold LinkText.commands LinkText.shift
    cases htraversal : l.traversal with
    | none => exact .ok (hrelated [])
    | some traversal =>
        have same := matching.commands (matching.piece h (hl.traversal traversal htraversal))
        exact same.mono fun _ _ h => h ▸ hrelated _

/-- **Corresponding fragments are scanned into corresponding segments.** -/
theorem Matching.scan (h : clean f f') :
    Scanned clean placed related (Markup.scan f) (Markup.scan f') := by
  obtain ⟨base, a, b, rfl, rfl⟩ := matching.exists_shift h
  exact matching.scan_shift h fun l hl => matching.link hrelated h hl

end

end Fiction
