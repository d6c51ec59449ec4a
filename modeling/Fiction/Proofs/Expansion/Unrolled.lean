import Fiction.Proofs.Expansion.Callers
import Fiction.Proofs.Expansion.Links
import Fiction.Proofs.Expr.Bounds

/-!
# Fiction.Proofs.Expansion.Unrolled

**Expansion ends.** Three recursions could go on: links hold markup, the text of a deferred call is evaluated
again, and calls expand their arguments and the texts of nodes, which hold calls again.

* `unrolledMarkup`, `unrolledEvaluate` and `unrolled` are these recursions cut off after a number of steps. What
  is done at the cut is arbitrary. Links end by `unrolledMarkup_eq`, deferred calls by `unrolledEvaluate_eq`.
* `unrolled_eq`: every call goes a level deeper and none is made at the limit, so with more steps than
  there are levels left the cut is not reached. Nor does anything run above the limit: `unrolled`
  would do something arbitrary there as well.
-/

namespace Fiction.Expansion

/-- A call, which makes further calls by `call`. None is made at the limit. Where the limit is passed
all the same, `beyond` runs in place of what the name stands for. -/
def callStep (beyond call : Caller) : Caller := fun c => do
  let s ← read
  if s.limit ≤ (← get).depth then fail (.recursionLimit s.limit) c.span
  else
    mapFault (·.inCall c.name) (borrowing Progress.deeper (fun p _ => p.shallower) (do
      if s.limit < (← get).depth then beyond c else dispatch call c))

/-- Calls unrolled a number of times; deeper calls do something arbitrary. -/
def unrolled (beyond bottom : Caller) : Nat → Caller
  | 0 => bottom
  | n + 1 => callStep beyond (unrolled beyond bottom n)

variable {s : Setting}

/-- At the limit no call is made. -/
theorem runIn_callStep_of_le (beyond call : Caller) (c : Call) {p : Progress}
    (h : s.limit ≤ p.depth) :
    (callStep beyond call c).runIn s p = (fail (.recursionLimit s.limit) c.span).runIn s p := by
  unfold callStep
  rw [runIn_bind, runIn_read]
  dsimp only
  rw [runIn_bind, runIn_get]
  dsimp only
  rw [if_pos h]

/-- Below the limit a call runs what its name stands for, and the limit is not passed. -/
theorem runIn_callStep_of_lt (beyond call : Caller) (c : Call) {p : Progress}
    (h : p.depth < s.limit) :
    (callStep beyond call c).runIn s p =
      (mapFault (·.inCall c.name)
        (borrowing Progress.deeper (fun p _ => p.shallower) (dispatch call c))).runIn s p := by
  have below : ¬ s.limit < p.deeper.depth := Nat.not_lt.mpr h
  unfold callStep
  rw [runIn_bind, runIn_read]
  dsimp only
  rw [runIn_bind, runIn_get]
  dsimp only
  rw [if_neg (Nat.not_le.mpr h), runIn_mapFault, runIn_mapFault, runIn_borrowing, runIn_borrowing,
    runIn_bind, runIn_get]
  dsimp only
  rw [if_neg below]

/-- Unrolled calls do what calls do, by induction on the levels left. -/
theorem follows_unrolled (beyond bottom : Caller) {room d n : Nat} (hroom : s.limit - d = room)
    (hn : room < n) (c : Call) :
    Follows (fun _ => False) d s s (callWith room c) (unrolled beyond bottom n c) := by
  induction room generalizing d n c with
  | zero =>
      obtain ⟨n, rfl⟩ : ∃ k, n = k + 1 := ⟨n - 1, by omega⟩
      -- no level is left, and the unrolled call sees it from the depth
      intro p hp
      refine ⟨hp, .inl ?_⟩
      rw [unrolled, runIn_callStep_of_le _ _ _ (by omega)]
      rfl
  | succ room ih =>
      obtain ⟨n, rfl⟩ : ∃ k, n = k + 1 := ⟨n - 1, by omega⟩
      have inner : Follows (fun _ => False) (d + 1) s s (dispatch (callWith room) c)
          (dispatch (unrolled beyond bottom n) c) :=
        follows_dispatch rfl rfl (ih (by omega) (by omega)) c
      have level : Follows (fun _ => False) d s s (callWith (room + 1) c)
          (mapFault (·.inCall c.name) (borrowing Progress.deeper (fun p _ => p.shallower)
            (dispatch (unrolled beyond bottom n) c))) := by
        refine Follows.mapFault (fun _ => rfl) ?_
        exact inner.borrowing (fun p hp => congrArg (· + 1) hp) fun p q _ hq => congrArg Nat.pred hq
      intro p hp
      rw [unrolled, runIn_callStep_of_lt _ _ _ (by omega)]
      exact level p hp

/-- **Calls end**: with more steps than levels left the cut is not reached, in markup and in
expressions. -/
theorem unrolled_eq (beyond bottom : Caller) {n : Nat} {p : Progress}
    (hn : s.limit - p.depth < n) (f : Fragment) :
    (markup (unrolled beyond bottom n) f).runIn s p = (markupTop f).runIn s p ∧
      (evaluate (unrolled beyond bottom n) f).runIn s p = (evaluateTop f).runIn s p := by
  have calls (c : Call) : Follows (fun _ => False) p.depth s s (callWith (s.limit - p.depth) c)
      (unrolled beyond bottom n c) :=
    follows_unrolled beyond bottom rfl hn c
  unfold markupTop evaluateTop
  rw [runIn_room, runIn_room]
  exact ⟨(follows_markup rfl rfl calls f p rfl).2.eq_of fun _ _ => id,
    (follows_evaluate rfl rfl calls f p rfl).2.eq_of fun _ _ => id⟩

end Fiction.Expansion
