import Mathlib.Data.List.Basic

/-!
# Fanning out a sequence

A sequence `es` of emissions is passed to `n` outputs, each emission to the outputs in order. What
an output was sent is a list of emissions with their positions in `es`; a round that is given up
leaves the outputs it did not get to without the emission.

* `Fan es sent`: every output was sent a subsequence of the emissions, and every emission sent to an
  output was sent to all outputs before it.
* `Fan.round`: this holds in the middle of a round, however far the round has got.
-/

set_option autoImplicit false

variable {α : Type*} {n : Nat}

/-- What the outputs were sent of the emissions `es`, possibly with rounds given up. -/
structure Fan (es : List α) (sent : Fin n → List (α × Nat)) : Prop where
  sublist : ∀ j, (sent j).Sublist es.zipIdx
  mono : ∀ i j, i < j → (sent j).Sublist (sent i)

/-- What the outputs were sent once the round of `e` has passed the first `k` of them. -/
def inRound (es : List α) (e : α) (k : Nat) (old : Fin n → List (α × Nat)) (j : Fin n) :
    List (α × Nat) :=
  if j.val < k then old j ++ [(e, es.length)] else old j

theorem zipIdx_snoc (es : List α) (e : α) : (es ++ [e]).zipIdx = es.zipIdx ++ [(e, es.length)] := by
  simp [List.zipIdx_append]

namespace Fan

variable {es : List α} {sent : Fin n → List (α × Nat)}

theorem nil : Fan [] fun _ : Fin n => ([] : List (α × Nat)) :=
  ⟨fun _ => List.Sublist.refl _, fun _ _ _ => List.Sublist.refl _⟩

/-- In the middle of a round. -/
theorem round (h : Fan es sent) (e : α) (k : Nat) : Fan (es ++ [e]) (inRound es e k sent) := by
  refine ⟨fun j => ?_, fun i j hij => ?_⟩
  · rw [zipIdx_snoc]
    unfold inRound
    split
    · exact (h.sublist j).append (List.Sublist.refl _)
    · exact (h.sublist j).trans (List.sublist_append_left _ _)
  · unfold inRound
    split
    · rw [if_pos (by omega)]
      exact (h.mono i j hij).append (List.Sublist.refl _)
    · split
      · exact (h.mono i j hij).trans (List.sublist_append_left _ _)
      · exact h.mono i j hij

end Fan

/-! ## Rounds -/

section
variable (es : List α) (e : α) (old : Fin n → List (α × Nat))

theorem inRound_zero : inRound es e 0 old = old := by
  funext j
  simp [inRound]

/-- The round gets to the next output. -/
theorem inRound_succ (i : Fin n) : inRound es e (i.val + 1) old =
    Function.update (inRound es e i old) i (old i ++ [(e, es.length)]) := by
  funext j
  by_cases hj : j = i
  · subst hj
    simp [inRound]
  · have hne : j.val ≠ i.val := fun h => hj (Fin.ext h)
    rw [Function.update_of_ne hj]
    unfold inRound
    by_cases hlt : j.val < i.val
    · rw [if_pos (by omega), if_pos hlt]
    · rw [if_neg (by omega), if_neg hlt]

/-- The output the round is at has not been sent the emission yet. -/
theorem inRound_self (i : Fin n) : inRound es e i old i = old i := by simp [inRound]

/-- A round that is through, of outputs that had been sent everything. -/
theorem inRound_all {k : Nat} (hk : n ≤ k) :
    inRound es e k (fun _ : Fin n => es.zipIdx) = fun _ => (es ++ [e]).zipIdx := by
  funext j
  rw [zipIdx_snoc]
  unfold inRound
  rw [if_pos (by omega)]

/-- In a round of outputs that had been sent everything, what a later output was sent is a prefix
of what an earlier one was sent, and at most one shorter. -/
theorem inRound_prefix (k : Nat) {i j : Fin n} (hij : i < j) :
    inRound es e k (fun _ => es.zipIdx) j <+: inRound es e k (fun _ => es.zipIdx) i ∧
    (inRound es e k (fun _ => es.zipIdx) i).length ≤
      (inRound es e k (fun _ => es.zipIdx) j).length + 1 := by
  unfold inRound
  by_cases hj : j.val < k
  · rw [if_pos hj, if_pos (by omega)]
    exact ⟨List.prefix_refl _, Nat.le_succ _⟩
  · rw [if_neg hj]
    split
    · exact ⟨List.prefix_append _ _, by simp⟩
    · exact ⟨List.prefix_refl _, Nat.le_succ _⟩

end
