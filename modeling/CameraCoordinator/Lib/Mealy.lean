import Mathlib.Data.List.Basic
import Mathlib.Data.List.Infix

/-!
# Machines with outputs

`Mealy σ ι ω` is a deterministic machine that answers every input with a list of outputs.
`Mealy.state` and `Mealy.out` run it over a list of inputs; both are computed from the front, and
`state_snoc`/`out_snoc` peel the last input, which is how histories are reasoned about here.

* `Mealy.split_snoc`: where an input of a run that is one input longer may stand.
* `Mealy.hist_run`: what every step adds to a history holds of the whole history.
* `Mealy.contramap`: the machine behind a translation of its inputs.
* `Mealy.ofHist`: the machine whose state is its history, for specifications.
* `Mealy.state_filter`, `Mealy.out_filter`: inputs that neither change the state nor emit can be
  dropped from a run.
* `Mealy.Unwinds.run`: so can inputs that are not seen from one side, as far as that side sees.
-/

set_option autoImplicit false

/-- A deterministic machine: an input takes a state to the next one and emits outputs. -/
structure Mealy (σ ι ω : Type*) where
  step : σ → ι → σ × List ω

namespace Mealy

variable {σ τ ι ω κ : Type*}

/-- The state after the inputs. -/
def state (m : Mealy σ ι ω) (s : σ) (is : List ι) : σ := is.foldl (fun s i => (m.step s i).1) s

/-- The outputs of the inputs, in order. -/
def out (m : Mealy σ ι ω) : σ → List ι → List ω
  | _, [] => []
  | s, i :: is => (m.step s i).2 ++ m.out (m.step s i).1 is

section
variable (m : Mealy σ ι ω) (s : σ)

@[simp] theorem state_nil : m.state s [] = s := rfl

@[simp] theorem state_cons (i : ι) (is : List ι) :
    m.state s (i :: is) = m.state (m.step s i).1 is := rfl

@[simp] theorem out_nil : m.out s [] = [] := rfl

@[simp] theorem out_cons (i : ι) (is : List ι) :
    m.out s (i :: is) = (m.step s i).2 ++ m.out (m.step s i).1 is := rfl

theorem state_append (is js : List ι) : m.state s (is ++ js) = m.state (m.state s is) js := by
  simp [state]

theorem out_append (is js : List ι) :
    m.out s (is ++ js) = m.out s is ++ m.out (m.state s is) js := by
  induction is generalizing s with
  | nil => rfl
  | cons i is ih => simp [ih]

theorem state_snoc (is : List ι) (i : ι) : m.state s (is ++ [i]) = (m.step (m.state s is) i).1 := by
  simp [state_append]

theorem out_snoc (is : List ι) (i : ι) :
    m.out s (is ++ [i]) = m.out s is ++ (m.step (m.state s is) i).2 := by
  simp [out_append]

/-- An input of a run is the last one, or an input of the run before. -/
theorem split_snoc {is l r : List ι} {i j : ι} (h : is ++ [j] = l ++ i :: r) :
    (l = is ∧ i = j ∧ r = []) ∨ ∃ r', r = r' ++ [j] ∧ is = l ++ i :: r' := by
  rcases List.eq_nil_or_concat r with rfl | ⟨r', x, rfl⟩
  · obtain ⟨rfl, hij⟩ := List.append_inj' h rfl
    exact .inl ⟨rfl, (List.singleton_injective hij).symm, rfl⟩
  · have h' : is ++ [j] = (l ++ i :: r') ++ [x] := by simp [h]
    obtain ⟨his, hx⟩ := List.append_inj' h' rfl
    exact .inr ⟨r', by rw [List.singleton_injective hx]; simp, his⟩

/-- The outputs of a prefix of the inputs are a prefix of the outputs. -/
theorem out_prefix {is js : List ι} (h : is <+: js) : m.out s is <+: m.out s js := by
  obtain ⟨ks, rfl⟩ := h
  exact ⟨_, (out_append m s is ks).symm⟩

end

/-- The history rule: a property of histories that every step of the run extends holds of the
whole run. `hstep` may use that the extended history is a prefix of the inputs. -/
theorem hist_run {m : Mealy σ ι ω} {s : σ} {P : List ι → σ → List ω → Prop} {is : List ι}
    (h0 : P [] s [])
    (hstep : ∀ h i, h ++ [i] <+: is → P h (m.state s h) (m.out s h) →
      P (h ++ [i]) (m.step (m.state s h) i).1 (m.out s h ++ (m.step (m.state s h) i).2)) :
    P is (m.state s is) (m.out s is) := by
  suffices ∀ h, h <+: is → P h (m.state s h) (m.out s h) from this is (List.prefix_refl is)
  intro h
  induction h using List.reverseRecOn with
  | nil => exact fun _ => h0
  | append_singleton h i ih =>
    intro hp
    rw [state_snoc, out_snoc]
    exact hstep h i hp (ih ((List.prefix_append h [i]).trans hp))

/-- An invariant of the step is an invariant of the run. -/
theorem inv_run {m : Mealy σ ι ω} {s : σ} {P : σ → Prop} (h0 : P s)
    (hstep : ∀ s i, P s → P (m.step s i).1) (is : List ι) : P (m.state s is) :=
  hist_run (P := fun _ t _ => P t) h0 fun _ _ _ h => hstep _ _ h

/-- What holds of the outputs of every step holds of the outputs of the run. -/
theorem forall_mem_out {m : Mealy σ ι ω} {Q : ω → Prop} (h : ∀ s i, ∀ o ∈ (m.step s i).2, Q o)
    {s : σ} {is : List ι} : ∀ o ∈ m.out s is, Q o := by
  induction is generalizing s with
  | nil => exact fun _ ho => absurd ho List.not_mem_nil
  | cons i is ih => exact fun o ho => (List.mem_append.1 ho).elim (h s i o) (ih o)

/-- A machine that emits at most once an input emits at most as much as it gets. -/
theorem out_length_le {m : Mealy σ ι ω} (h : ∀ s i, (m.step s i).2.length ≤ 1) (s : σ)
    (is : List ι) : (m.out s is).length ≤ is.length := by
  induction is generalizing s with
  | nil => exact Nat.le_refl 0
  | cons i is ih =>
    have hi := h s i
    have his := ih (m.step s i).1
    simp only [out_cons, List.length_append, List.length_cons]
    omega

/-- A machine that emits what satisfies `q` only on inputs that satisfy `p`, once each, emits no
more of it than it gets. -/
theorem countP_out_le {m : Mealy σ ι ω} {p : ι → Bool} {q : ω → Bool}
    (h : ∀ s i, (m.step s i).2.countP q ≤ if p i then 1 else 0) (s : σ) (is : List ι) :
    (m.out s is).countP q ≤ is.countP p := by
  induction is generalizing s with
  | nil => exact Nat.le_refl 0
  | cons i is ih =>
    have hi := h s i
    have his := ih (m.step s i).1
    rw [out_cons, List.countP_append, List.countP_cons]
    omega

/-- The law rule: if a step from a history with `P` ends in `P` exactly when it meets `S`, then `P`
holds at every point of the run exactly when every step of the run meets `S`. -/
theorem forall_prefix_iff {P : List ι → Prop} {S : List ι → ι → Prop} {is : List ι} (h0 : P [])
    (hstep : ∀ h i, h ++ [i] <+: is → P h → (P (h ++ [i]) ↔ S h i)) :
    (∀ h, h <+: is → P h) ↔ ∀ h i rest, is = h ++ i :: rest → S h i := by
  constructor
  · intro hp h i rest e
    have hpre : h ++ [i] <+: is := ⟨rest, by simp [e]⟩
    exact (hstep h i hpre (hp h ((List.prefix_append h [i]).trans hpre))).1 (hp _ hpre)
  · intro hs h
    induction h using List.reverseRecOn with
    | nil => exact fun _ => h0
    | append_singleton h i ih =>
      intro hpre
      have hp := ih ((List.prefix_append h [i]).trans hpre)
      obtain ⟨rest, e⟩ := id hpre
      exact (hstep h i hpre hp).2 (hs h i rest (by simp [← e]))

/-! ## Translated inputs -/

/-- The machine behind a translation of its inputs. -/
def contramap (m : Mealy σ ι ω) (g : κ → ι) : Mealy σ κ ω where
  step s k := m.step s (g k)

theorem state_map (m : Mealy σ ι ω) (g : κ → ι) (s : σ) (ks : List κ) :
    m.state s (ks.map g) = (m.contramap g).state s ks := by
  induction ks generalizing s with
  | nil => rfl
  | cons k ks ih => exact ih _

theorem out_map (m : Mealy σ ι ω) (g : κ → ι) (s : σ) (ks : List κ) :
    m.out s (ks.map g) = (m.contramap g).out s ks := by
  induction ks generalizing s with
  | nil => rfl
  | cons k ks ih =>
    rw [List.map_cons, out_cons, out_cons, ih]
    rfl

/-! ## Histories as states -/

/-- The machine that remembers its whole history and emits `f h i` on `i` after `h`. -/
def ofHist (f : List ι → ι → List ω) : Mealy (List ι) ι ω where
  step h i := (h ++ [i], f h i)

theorem ofHist_state (f : List ι → ι → List ω) (h is : List ι) :
    (ofHist f).state h is = h ++ is := by
  induction is generalizing h with
  | nil => simp
  | cons i is ih =>
    rw [state_cons, ih]
    simp [ofHist]

theorem ofHist_out_snoc (f : List ι → ι → List ω) (h : List ι) (i : ι) :
    (ofHist f).out [] (h ++ [i]) = (ofHist f).out [] h ++ f h i := by
  rw [out_snoc, ofHist_state]
  rfl

/-! ## Silent inputs -/

section
variable {m : Mealy σ ι ω} {P : σ → Prop} {p : ι → Bool}
  (hinv : ∀ s i, p i = true → P s → P (m.step s i).1)
  (hsilent : ∀ s i, p i = false → P s → m.step s i = (s, []))
include hinv hsilent

/-- A run ends where the run without its silent inputs ends. -/
theorem state_filter {s : σ} (h : P s) (is : List ι) : m.state s (is.filter p) = m.state s is := by
  induction is generalizing s with
  | nil => rfl
  | cons i is ih =>
    cases hp : p i with
    | true => rw [List.filter_cons_of_pos hp, state_cons, state_cons, ih (hinv s i hp h)]
    | false =>
      rw [List.filter_cons_of_neg (by simp [hp]), ih h, state_cons, hsilent s i hp h]

/-- A run emits what the run without its silent inputs emits. -/
theorem out_filter {s : σ} (h : P s) (is : List ι) : m.out s (is.filter p) = m.out s is := by
  induction is generalizing s with
  | nil => rfl
  | cons i is ih =>
    cases hp : p i with
    | true => rw [List.filter_cons_of_pos hp, out_cons, out_cons, ih (hinv s i hp h)]
    | false =>
      rw [List.filter_cons_of_neg (by simp [hp]), ih h, out_cons, hsilent s i hp h, List.nil_append]

end

/-! ## What is seen from one side -/

/-- One side sees of a state its `view` and of the outputs those that satisfy `q`. It does not see
the inputs that fail `p`, and what it sees of the others depends only on what it saw before. The
states are those that satisfy `P`, the inputs those that satisfy `A`. -/
structure Unwinds (m : Mealy σ ι ω) (A : ι → Prop) (P : σ → Prop) (p : ι → Bool) (view : σ → τ)
    (q : ω → Bool) : Prop where
  inv : ∀ {s i}, A i → P s → P (m.step s i).1
  unseen : ∀ {s i}, p i = false → P s →
    view (m.step s i).1 = view s ∧ (m.step s i).2.filter q = []
  seen : ∀ {s s' i}, p i = true → A i → P s → P s' → view s = view s' →
    view (m.step s i).1 = view (m.step s' i).1 ∧
    (m.step s i).2.filter q = (m.step s' i).2.filter q

/-- A side sees of a run what it sees of the run without the inputs that it does not see. -/
theorem Unwinds.run {m : Mealy σ ι ω} {A : ι → Prop} {P : σ → Prop} {p : ι → Bool} {view : σ → τ}
    {q : ω → Bool} (h : Unwinds m A P p view q) {s s' : σ} (hs : P s) (hs' : P s')
    (hview : view s = view s') {is : List ι} (his : ∀ i ∈ is, A i) :
    view (m.state s is) = view (m.state s' (is.filter p)) ∧
    (m.out s is).filter q = (m.out s' (is.filter p)).filter q := by
  induction is generalizing s s' with
  | nil => exact ⟨hview, rfl⟩
  | cons i is ih =>
    rw [List.forall_mem_cons] at his
    obtain ⟨hi, his⟩ := his
    rw [state_cons, out_cons, List.filter_append]
    cases hp : p i with
    | true =>
      obtain ⟨hv, ho⟩ := h.seen hp hi hs hs' hview
      obtain ⟨hstate, hout⟩ := ih (h.inv hi hs) (h.inv hi hs') hv his
      rw [List.filter_cons_of_pos hp, state_cons, out_cons, List.filter_append, ho, hout]
      exact ⟨hstate, rfl⟩
    | false =>
      obtain ⟨hv, ho⟩ := h.unseen hp hs
      obtain ⟨hstate, hout⟩ := ih (h.inv hi hs) hs' (hv.trans hview) his
      rw [List.filter_cons_of_neg (by simp [hp]), ho, List.nil_append]
      exact ⟨hstate, hout⟩

end Mealy
