import Mathlib.Data.List.Basic
import Mathlib.Logic.Function.Basic
import Mathlib.Logic.Unique

/-!
# Interleavings

`Interleaves ls l`: the elements of `l` can be given origins so that those of each origin `i` are
`ls i`, in order. It is built from the end, as histories grow (`snoc`), and taken apart again by a
test that tells the lists apart (`filter_eq`).
-/

set_option autoImplicit false

variable {ι α : Type*} [DecidableEq ι]

/-- `l` is an interleaving of the lists `ls`. -/
def Interleaves (ls : ι → List α) (l : List α) : Prop :=
  ∃ tagged : List (ι × α), tagged.map Prod.snd = l ∧
    ∀ i, (tagged.filter fun p => p.1 = i).map Prod.snd = ls i

namespace Interleaves

variable {ls ls' : ι → List α} {l : List α}

theorem nil : Interleaves (fun _ : ι => ([] : List α)) [] := ⟨[], rfl, fun _ => rfl⟩

theorem congr (h : Interleaves ls l) (heq : ∀ i, ls' i = ls i) : Interleaves ls' l :=
  (funext heq : ls' = ls) ▸ h

/-- One more element, of one of the lists. -/
theorem snoc (h : Interleaves ls l) (i : ι) (x : α) :
    Interleaves (Function.update ls i (ls i ++ [x])) (l ++ [x]) := by
  obtain ⟨tagged, rfl, hls⟩ := h
  refine ⟨tagged ++ [(i, x)], by simp, fun j => ?_⟩
  by_cases hj : j = i
  · subst hj
    simp [List.filter_append, hls]
  · simp [List.filter_append, hls, hj, Ne.symm hj]

/-- An element is of the list of its origin. -/
theorem mem_of_tagged {tagged : List (ι × α)}
    (hls : ∀ i, (tagged.filter fun p => p.1 = i).map Prod.snd = ls i) {q : ι × α}
    (hq : q ∈ tagged) : q.2 ∈ ls q.1 := by
  rw [← hls q.1]
  exact List.mem_map_of_mem (List.mem_filter.2 ⟨hq, by simp⟩)

/-- The elements of one list can be told from those of the others. -/
theorem filter_eq (h : Interleaves ls l) {p : α → Bool} {i : ι} (hp : ∀ x ∈ ls i, p x = true)
    (hothers : ∀ j, j ≠ i → ∀ x ∈ ls j, p x = false) : l.filter p = ls i := by
  obtain ⟨tagged, rfl, hls⟩ := h
  rw [List.filter_map, ← hls i]
  refine congrArg (List.map Prod.snd) (List.filter_congr fun q hq => ?_)
  by_cases hi : q.1 = i
  · rw [Function.comp_apply, hp q.2 (hi ▸ mem_of_tagged hls hq), hi]
    simp
  · rw [Function.comp_apply, hothers q.1 hi q.2 (mem_of_tagged hls hq)]
    simp [hi]

/-- Every element is of one of the lists. -/
theorem exists_mem (h : Interleaves ls l) {x : α} (hx : x ∈ l) : ∃ i, x ∈ ls i := by
  obtain ⟨tagged, rfl, hls⟩ := h
  obtain ⟨q, hq, rfl⟩ := List.mem_map.1 hx
  exact ⟨q.1, mem_of_tagged hls hq⟩

/-- There is one interleaving of a single list. -/
theorem eq_default [Unique ι] (h : Interleaves ls l) : l = ls default := by
  obtain ⟨tagged, rfl, hls⟩ := h
  rw [← hls default, List.filter_eq_self.2 fun p _ => by simp [Unique.eq_default p.1]]

end Interleaves
