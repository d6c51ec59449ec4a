import Fiction.Expansion.Markup
import Fiction.Proofs.Markup.Lossless

/-!
# Fiction.Proofs.Expansion.Links

**Links end.** Links hold markup, so expanding markup goes through their labels and targets. These are
shorter than the text the link stands in.

* `segments_congr`: what segments expand to depends only on how shorter texts are expanded.
* `unrolledMarkup` is the recursion cut off after a number of steps, and `unrolledMarkup_eq` says that
  with more steps than the text has characters the cut is not reached.
* `markup_eq` is the recursion without a bound: markup is scanned, and its segments are expanded.
-/

namespace Fiction

/-! ## Lengths -/

/-- Parts with separators between them are no longer than the whole. -/
theorem Fragment.Joined.length_le {separator : Char} {offset : Nat} {cs : List Char}
    {parts : List Fragment} (h : Fragment.Joined separator offset cs parts) {part : Fragment}
    (hpart : part ∈ parts) : part.chars.length ≤ cs.length := by
  induction h with
  | last offset piece =>
      cases List.mem_singleton.mp hpart
      exact Nat.le_refl _
  | @cons offset piece rest parts _ ih =>
      rw [List.length_append, List.length_cons]
      rcases List.mem_cons.mp hpart with rfl | hpart
      · dsimp only
        omega
      · have := ih hpart
        omega

/-- The label and the target of a link are shorter than the link. -/
theorem LinkText.Written.length_lt {l : LinkText} {f : Fragment} (h : l.Written f) :
    l.label.chars.length < f.chars.length ∧ l.target.chars.length < f.chars.length := by
  obtain ⟨inner, parts, text, joined, parted⟩ := h.parts
  have shorter {part : Fragment} (hpart : part ∈ parts) : part.chars.length < f.chars.length := by
    have := joined.length_le hpart
    rw [text]
    simp only [List.cons_append, List.length_cons, List.length_append]
    omega
  cases parted with
  | one same _ =>
      rw [same]
      exact ⟨shorter List.mem_cons_self, shorter List.mem_cons_self⟩
  | two _ => exact ⟨shorter (by simp), shorter (by simp)⟩
  | three _ => exact ⟨shorter (by simp), shorter (by simp)⟩

namespace Markup

theorem Cut.link_length_lt {escaped : Bool} {offset : Nat} {cs : List Char} {segments : List Segment}
    (h : Cut escaped offset cs segments) {l : LinkText} (hl : .link l ∈ segments) :
    l.label.chars.length < cs.length ∧ l.target.chars.length < cs.length := by
  induction h with
  | nil => cases hl
  | text _ _ _ _ ih =>
      rcases List.mem_cons.mp hl with heq | hl
      · cases heq
      · have := ih hl
        rw [List.length_append]
        omega
  | other _ _ written _ _ ih =>
      rw [List.length_append]
      rcases List.mem_cons.mp hl with rfl | hl
      · have := LinkText.Written.length_lt written
        dsimp only at this
        omega
      · have := ih hl
        omega

/-- **The links of a text hold shorter texts.** -/
theorem scan_link_length_lt {f : Fragment} {segments : List Segment} (h : scan f = .ok segments)
    {l : LinkText} (hl : .link l ∈ segments) :
    l.label.chars.length < f.chars.length ∧ l.target.chars.length < f.chars.length :=
  (scanFrom_cut h).link_length_lt hl

end Markup

/-! ## Expanding links -/

namespace Expansion

variable {call : Caller}

theorem trim_length_le (f : Fragment) : f.trim.chars.length ≤ f.chars.length :=
  f.trim_partOf.isInfix.length_le

/-- What records a link depends on how its label and its target are expanded. -/
theorem recordLink_congr {expand expand' : Fragment → Expansion String} {l : LinkText} {bound : Nat}
    (hlabel : l.label.chars.length < bound) (htarget : l.target.chars.length < bound)
    (h : ∀ f : Fragment, f.chars.length < bound → expand f = expand' f) :
    recordLink call expand l = recordLink call expand' l := by
  unfold recordLink
  rw [h _ ((trim_length_le _).trans_lt hlabel)]
  congr 1
  funext label
  split
  · rfl
  · next targetPart contextParts hparts =>
      have part : targetPart ∈ l.target.splitTop .argument '&' := by simp [hparts]
      have shorter := (Fragment.mem_splitTop part).isInfix.length_le.trans_lt htarget
      rw [h _ ((trim_length_le _).trans_lt shorter)]

theorem segments_congr {expand expand' : Fragment → Expansion String} {bound : Nat}
    (h : ∀ f : Fragment, f.chars.length < bound → expand f = expand' f) {parts : List Segment}
    (hparts : ∀ l, .link l ∈ parts →
      l.label.chars.length < bound ∧ l.target.chars.length < bound) :
    segments call expand parts = segments call expand' parts := by
  induction parts with
  | nil => rfl
  | cons segment rest ih =>
      unfold segments
      rw [ih fun l hl => hparts l (List.mem_cons_of_mem _ hl)]
      cases segment with
      | text f => rfl
      | call c => rfl
      | link l =>
          obtain ⟨hlabel, htarget⟩ := hparts l List.mem_cons_self
          dsimp only
          rw [recordLink_congr hlabel htarget h]

/-- Markup with links unrolled a number of times; deeper links are expanded in an arbitrary way. -/
def unrolledMarkup (call : Caller) (bottom : Fragment → Expansion String) :
    Nat → Fragment → Expansion String
  | 0, f => bottom f
  | n + 1, f => do segments call (unrolledMarkup call bottom n) (← ofFlaw (Markup.scan f))

theorem nestedMarkup_eq_unrolledMarkup (bottom : Fragment → Expansion String) {n m : Nat}
    {f : Fragment} (hn : f.chars.length < n) (hm : f.chars.length < m) :
    nestedMarkup call n f = unrolledMarkup call bottom m f := by
  induction n generalizing m f with
  | zero => omega
  | succ n ih =>
      obtain ⟨m, rfl⟩ : ∃ k, m = k + 1 := ⟨m - 1, by omega⟩
      rw [nestedMarkup, unrolledMarkup]
      cases hscan : Markup.scan f with
      | error flaw => rfl
      | ok parts =>
          -- labels and targets are shorter than the text, so both bounds still hold for them
          have shorter : ∀ g : Fragment, g.chars.length < f.chars.length →
              nestedMarkup call n g = unrolledMarkup call bottom m g :=
            fun g hg => ih (by omega) (by omega)
          exact segments_congr shorter fun l hl => Markup.scan_link_length_lt hscan hl

/-- **Links end**: with more steps than characters the cut is not reached. -/
theorem unrolledMarkup_eq (bottom : Fragment → Expansion String) {n : Nat} {f : Fragment}
    (h : f.chars.length < n) : unrolledMarkup call bottom n f = markup call f :=
  (nestedMarkup_eq_unrolledMarkup bottom (Nat.lt_succ_self _) h).symm

/-- **Markup is scanned and its segments are expanded**, those in links by the same rule. -/
theorem markup_eq (f : Fragment) :
    markup call f = ofFlaw (Markup.scan f) >>= segments call (markup call) := by
  rw [← unrolledMarkup_eq (markup call) (Nat.lt_succ_self f.chars.length), unrolledMarkup]
  cases hscan : Markup.scan f with
  | error flaw => rfl
  | ok parts =>
      exact segments_congr (fun g hg => unrolledMarkup_eq (markup call) hg) fun l hl =>
        Markup.scan_link_length_lt hscan hl

end Expansion

end Fiction
