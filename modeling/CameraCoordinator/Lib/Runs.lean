import Mathlib.Data.List.Basic
import Mathlib.Logic.Relation

/-!
# Runs of a step relation

The runs of a step relation are its reflexive transitive closure. Each induction over runs is done
once here: `invariant` for a property that every step keeps, `invariant_reached` for one that a step
keeps if it is taken from a state of the run, and `invariant_labelled` for steps that carry the name
of who takes them. `run_of_part` takes the run of a part out of a run of the whole.

`Trace` keeps the labels of a run. Where some steps lower a measure, `Trace.count_le` bounds their
number in a run; where all do, a run gets to a state without a step (`exists_stuck`).
-/

set_option autoImplicit false

namespace Relation.ReflTransGen

variable {σ α : Type*} {r : σ → σ → Prop} {P : σ → Prop} {s t : σ}

/-- What holds at the start and is kept by every step from a state of the run holds at its end. -/
theorem invariant_reached (h : ReflTransGen r s t) (h0 : P s)
    (hstep : ∀ {u u'}, ReflTransGen r s u → r u u' → P u → P u') : P t := by
  induction h with
  | refl => exact h0
  | tail hrun hu ih => exact hstep hrun hu ih

/-- What holds at the start and is kept by every step holds at the end. -/
theorem invariant (h : ReflTransGen r s t) (h0 : P s) (hstep : ∀ {u u'}, r u u' → P u → P u') :
    P t := h.invariant_reached h0 fun _ => hstep

theorem invariant_labelled {step : α → σ → σ → Prop}
    (h : ReflTransGen (fun u u' => ∃ a, step a u u') s t) (h0 : P s)
    (hstep : ∀ {a u u'}, step a u u' → P u → P u') : P t :=
  h.invariant h0 fun ⟨_, hu⟩ => hstep hu

/-! ## Runs of a part -/

/-- Let a part of the state be viewed with what it is still to be given, and let `total` be all that
it is given. If a step is one of the part or leaves it alone, then a run is one of the part, given
in all what it has been given at the end. -/
theorem run_of_part {τ β γ : Type*} {q : τ → τ → Prop} (view : σ → β → τ) (total : σ → β → γ)
    (hstep : ∀ {u u'}, r u u' → ∀ b, ∃ b', total u b' = total u' b ∧
      (view u' b = view u b' ∨ q (view u b') (view u' b)))
    (h : ReflTransGen r s t) (b : β) :
    ∃ b', total s b' = total t b ∧ ReflTransGen q (view s b') (view t b) := by
  induction h generalizing b with
  | refl => exact ⟨b, rfl, .refl⟩
  | tail _ hu ih =>
    obtain ⟨b', htotal, hview⟩ := hstep hu b
    obtain ⟨b₀, htotal₀, hrun⟩ := ih b'
    refine ⟨b₀, htotal₀.trans htotal, ?_⟩
    rcases hview with heq | hq
    · rw [heq]
      exact hrun
    · exact hrun.tail hq

/-! ## Runs that end -/

/-- Where every step lowers the measure, every run can be continued to a state without a step. -/
theorem exists_stuck {μ : σ → Nat} (hfalls : ∀ {u u'}, r u u' → μ u' < μ u) (s : σ) :
    ∃ t, ReflTransGen r s t ∧ ∀ u, ¬ r t u := by
  induction hm : μ s using Nat.strongRecOn generalizing s with
  | _ m ih =>
    by_cases hs : ∃ u, r s u
    · obtain ⟨u, hu⟩ := hs
      obtain ⟨t, hrun, ht⟩ := ih (μ u) (hm ▸ hfalls hu) u rfl
      exact ⟨t, .head hu hrun, ht⟩
    · exact ⟨s, .refl, fun u hu => hs ⟨u, hu⟩⟩

end Relation.ReflTransGen

namespace Relation

variable {σ α : Type*} {step : α → σ → σ → Prop} {s t u : σ} {a : α} {as : List α}

/-- The runs of labelled steps, with the labels of their steps. -/
inductive Trace (step : α → σ → σ → Prop) : List α → σ → σ → Prop
  | nil {s : σ} : Trace step [] s s
  | cons {a : α} {as : List α} {s u t : σ} :
      step a s u → Trace step as u t → Trace step (a :: as) s t

theorem Trace.run (h : Trace step as s t) : ReflTransGen (fun u u' => ∃ a, step a u u') s t := by
  induction h with
  | nil => exact .refl
  | cons hstep _ ih => exact .head ⟨_, hstep⟩ ih

theorem ReflTransGen.exists_trace (h : ReflTransGen (fun u u' => ∃ a, step a u u') s t) :
    ∃ as, Trace step as s t := by
  induction h using ReflTransGen.head_induction_on with
  | refl => exact ⟨[], .nil⟩
  | head hstep _ ih =>
    obtain ⟨a, hstep⟩ := hstep
    obtain ⟨as, hrest⟩ := ih
    exact ⟨a :: as, .cons hstep hrest⟩

/-- Steps that lower the measure are paid for by the measure at the start and by what the other
steps raise it by. -/
theorem Trace.count_le {μ : σ → Nat} {p : α → Prop} [DecidablePred p] {k : Nat}
    (hfalls : ∀ {a u u'}, step a u u' → ¬ p a → μ u' < μ u)
    (hraises : ∀ {a u u'}, step a u u' → p a → μ u' ≤ μ u + k) (h : Trace step as s t) :
    as.countP (fun a => ¬ p a) + μ t ≤ μ s + k * as.countP fun a => p a := by
  induction h with
  | nil => simp
  | @cons a as s u t hstep _ ih =>
    by_cases ha : p a
    · have hle := hraises hstep ha
      rw [List.countP_cons_of_neg (by simpa using ha), List.countP_cons_of_pos (by simpa using ha),
        Nat.mul_succ]
      omega
    · have hlt := hfalls hstep ha
      rw [List.countP_cons_of_pos (by simpa using ha), List.countP_cons_of_neg (by simpa using ha)]
      omega

end Relation
