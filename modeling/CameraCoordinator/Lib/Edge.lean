import CameraCoordinator.Lib.Mealy
import Mathlib.Algebra.Group.Nat.Even

/-!
# Signals over histories and their edges

A signal is a predicate on histories (`lvl : List ι → Prop`), low on the empty one. An input is a
rising edge if it makes a low signal high and a falling edge if it makes a high signal low
(`edgeAt`). `edges lvl h` lists the edges of a history, `true` for a rise. They alternate, starting
with a rise, and the signal is high exactly when the last edge is a rise (`alternates_edges`).
-/

set_option autoImplicit false

variable {α ι : Type*}

/-! ## Alternation -/

/-- `a, b, a, b, …` -/
def Alternates (a b : α) : List α → Prop
  | [] => True
  | x :: xs => x = a ∧ Alternates b a xs

namespace Alternates

@[simp] theorem nil (a b : α) : Alternates a b [] := trivial

@[simp] theorem cons_iff {a b x : α} {xs : List α} :
    Alternates a b (x :: xs) ↔ x = a ∧ Alternates b a xs := Iff.rfl

/-- Which of the two comes next is told by the parity of the length. -/
theorem snoc_iff {a b x : α} {xs : List α} : Alternates a b (xs ++ [x]) ↔
    Alternates a b xs ∧ x = if Even xs.length then a else b := by
  induction xs generalizing a b with
  | nil => simp
  | cons y ys ih =>
    have hpar : Even (y :: ys).length ↔ ¬ Even ys.length := Nat.even_add_one
    rw [List.cons_append, cons_iff, cons_iff, ih, and_assoc]
    refine and_congr_right fun _ => and_congr_right fun _ => ?_
    by_cases he : Even ys.length
    · rw [if_pos he, if_neg (fun h => hpar.1 h he)]
    · rw [if_neg he, if_pos (hpar.2 he)]

/-- The last element is the first value exactly if the length is odd. -/
theorem getLast_iff {a b : α} {xs : List α} (h : Alternates a b xs) (hne : a ≠ b) :
    xs.getLast? = some a ↔ ¬ Even xs.length := by
  cases xs using List.reverseRecOn with
  | nil => simp
  | append_singleton xs x =>
    have hpar : Even (xs ++ [x]).length ↔ ¬ Even xs.length := by
      rw [List.length_append]
      exact Nat.even_add_one
    rw [hpar, not_not, List.getLast?_concat, Option.some_inj, (snoc_iff.1 h).2]
    split <;> simp_all [Ne.symm hne]

/-- There are as many of the first value as of the second, and one more after the first. -/
theorem count_eq [DecidableEq α] {a b : α} {xs : List α} (h : Alternates a b xs) (hne : a ≠ b) :
    xs.count a = xs.count b + if xs.getLast? = some a then 1 else 0 := by
  induction xs using List.reverseRecOn with
  | nil => simp
  | append_singleton xs x ih =>
    obtain ⟨hinit, hx⟩ := snoc_iff.1 h
    have hcount := ih hinit
    have hlast := hinit.getLast_iff hne
    rw [List.count_append, List.count_append, List.getLast?_concat]
    by_cases he : Even xs.length
    · rw [if_pos he] at hx
      subst hx
      rw [if_neg (fun hl => hlast.1 hl he)] at hcount
      simp [hcount, hne]
    · rw [if_neg he] at hx
      subst hx
      rw [if_pos (hlast.2 he)] at hcount
      simp [hcount, Ne.symm hne]

theorem map {β : Type*} {a b : α} {xs : List α} (f : α → β) (h : Alternates a b xs) :
    Alternates (f a) (f b) (xs.map f) := by
  induction xs generalizing a b with
  | nil => trivial
  | cons x xs ih => exact ⟨congrArg f h.1, ih h.2⟩

end Alternates

/-! ## Edges -/

open Classical in
/-- The edge of the signal at the input `i` after the history `h`: `some true` for a rise,
`some false` for a fall. -/
noncomputable def edgeAt (lvl : List ι → Prop) (h : List ι) (i : ι) : Option Bool :=
  if lvl h then (if lvl (h ++ [i]) then none else some false)
  else if lvl (h ++ [i]) then some true else none

/-- The edges of the signal over a history, in order. -/
noncomputable def edges (lvl : List ι → Prop) : List ι → List Bool :=
  (Mealy.ofHist fun h i => (edgeAt lvl h i).toList).out []

variable {lvl : List ι → Prop} {h : List ι} {i : ι}

theorem edgeAt_rise (h0 : ¬ lvl h) (h1 : lvl (h ++ [i])) : edgeAt lvl h i = some true := by
  simp [edgeAt, h0, h1]

theorem edgeAt_fall (h0 : lvl h) (h1 : ¬ lvl (h ++ [i])) : edgeAt lvl h i = some false := by
  simp [edgeAt, h0, h1]

theorem edgeAt_none (hiff : lvl (h ++ [i]) ↔ lvl h) : edgeAt lvl h i = none := by
  by_cases hl : lvl h
  · simp [edgeAt, hl, hiff.2 hl]
  · simp [edgeAt, hl, mt hiff.1 hl]

@[simp] theorem edges_nil : edges lvl [] = [] := rfl

theorem edges_snoc (h : List ι) (i : ι) :
    edges lvl (h ++ [i]) = edges lvl h ++ (edgeAt lvl h i).toList := Mealy.ofHist_out_snoc _ h i

/-- The edges alternate, starting with a rise, and the signal is high exactly after a rise. -/
theorem alternates_edges (h0 : ¬ lvl []) (h : List ι) :
    Alternates true false (edges lvl h) ∧ (lvl h ↔ (edges lvl h).getLast? = some true) := by
  induction h using List.reverseRecOn with
  | nil => exact ⟨trivial, by simpa using h0⟩
  | append_singleton h i ih =>
    obtain ⟨halt, hlast⟩ := ih
    have hpar : lvl h ↔ ¬ Even (edges lvl h).length := hlast.trans (halt.getLast_iff (by decide))
    rw [edges_snoc]
    by_cases hl : lvl h <;> by_cases hl' : lvl (h ++ [i])
    · rw [edgeAt_none (iff_of_true hl' hl)]
      simpa using ⟨halt, iff_of_true hl' (hlast.1 hl)⟩
    · rw [edgeAt_fall hl hl']
      refine ⟨Alternates.snoc_iff.2 ⟨halt, ?_⟩, by simpa using hl'⟩
      rw [if_neg (hpar.1 hl)]
    · rw [edgeAt_rise hl hl']
      refine ⟨Alternates.snoc_iff.2 ⟨halt, ?_⟩, by simpa using hl'⟩
      rw [if_pos (not_not.1 (mt hpar.2 hl))]
    · rw [edgeAt_none (iff_of_false hl' hl)]
      simpa using ⟨halt, iff_of_false hl' (mt hlast.2 hl)⟩
