import CameraCoordinator.Lib.Runs
import Mathlib.Logic.Function.Basic

/-!
# A mutex

Threads that share a state: each takes steps of its own, and runs sections of its code under one
lock, statement by statement, while the others go on. `Mutex.AtomicStep` are the same threads with
every section one step.

No two threads are in a section (`reachable_exclusive`). If a thread's own step commutes with the
statements of the sections (`Mutex.Movers`), then what is seen while the lock is free is what is
seen of atomic sections: `reachable_unlocked_iff`. A section counts as run when it releases the
lock, and the own steps taken during it move before it.
-/

set_option autoImplicit false

variable {ι σ S L : Type*}

/-- What threads do: `ι` are the threads, `σ` what they share, `S` the sections and `L` the places
in them. -/
structure Mutex (ι σ S L : Type*) where
  init : σ
  /-- A step of a thread outside of sections, and the section it is to run after it, if any. -/
  own : ι → σ → Option S → σ → Prop
  enter : S → L
  /-- A statement of a section. -/
  inside : L → σ → L → σ → Prop
  /-- The section is over, the lock is to be released. -/
  exit : L → Prop

namespace Mutex

/-! ## States -/

/-- Where a thread is. -/
inductive Place (S L : Type*)
  | outside
  /-- It is to lock. -/
  | waiting (s : S)
  | holding (s : S) (l : L)

/-- The section a thread is to run or runs. -/
def Place.wants : Place S L → Option S
  | .outside => none
  | .waiting s => some s
  | .holding s _ => some s

def Place.inSection : Place S L → Bool
  | .holding _ _ => true
  | _ => false

/-- The place of a thread that is to run a section, or none. -/
def Place.ofWants : Option S → Place S L
  | none => .outside
  | some s => .waiting s

@[simp] theorem Place.wants_ofWants (o : Option S) : (ofWants o : Place S L).wants = o := by
  cases o <;> rfl

theorem Place.inSection_ofWants (o : Option S) : (ofWants o : Place S L).inSection = false := by
  cases o <;> rfl

structure Config (ι σ S L : Type*) where
  shared : σ
  locked : Bool
  place : ι → Place S L

/-- The same of threads with atomic sections. -/
structure Atomic (ι σ S : Type*) where
  shared : σ
  wants : ι → Option S

/-- What is seen of a state while the lock is free. -/
def Config.seen (c : Config ι σ S L) : Atomic ι σ S := ⟨c.shared, fun i => (c.place i).wants⟩

/-- The state in which the threads of an atomic one wait. -/
def Atomic.unlocked (a : Atomic ι σ S) : Config ι σ S L :=
  ⟨a.shared, false, fun i => .ofWants (a.wants i)⟩

@[simp] theorem Atomic.seen_unlocked (a : Atomic ι σ S) :
    (a.unlocked : Config ι σ S L).seen = a := by
  simp [Atomic.unlocked, Config.seen]

section
variable {c c' : Config ι σ S L} {i j : ι} {s s' : S} {l l' : L}

/-- The lock is held if and only if a thread is in a section, and then no other one is. -/
structure Exclusive (c : Config ι σ S L) : Prop where
  locked_iff : c.locked = true ↔ ∃ i, (c.place i).inSection = true
  unique : ∀ i j, (c.place i).inSection = true → (c.place j).inSection = true → i = j

theorem Exclusive.congr (h : Exclusive c) (hlocked : c'.locked = c.locked)
    (hplace : ∀ k, (c'.place k).inSection = (c.place k).inSection) : Exclusive c' := by
  refine ⟨?_, fun i j hi hj => h.unique i j (hplace i ▸ hi) (hplace j ▸ hj)⟩
  simp only [hlocked, hplace]
  exact h.locked_iff

theorem Exclusive.locked_of_holding (h : Exclusive c) (hi : c.place i = .holding s l) :
    c.locked = true :=
  h.locked_iff.2 ⟨i, by rw [hi]; rfl⟩

theorem Exclusive.eq_of_holding (h : Exclusive c) (hi : c.place i = .holding s l)
    (hj : c.place j = .holding s' l') : i = j :=
  h.unique i j (by rw [hi]; rfl) (by rw [hj]; rfl)

theorem Exclusive.holding_of_locked (h : Exclusive c) (hlocked : c.locked = true) :
    ∃ i s l, c.place i = .holding s l := by
  obtain ⟨i, hi⟩ := h.locked_iff.1 hlocked
  cases hp : c.place i with
  | outside | waiting _ =>
    rw [hp] at hi
    cases hi
  | holding s l => exact ⟨i, s, l, hp⟩

end

/-! ## Sections -/

variable (P : Mutex ι σ S L)

/-- Statements one after another. -/
def Run : L × σ → L × σ → Prop :=
  Relation.ReflTransGen fun p q => P.inside p.1 p.2 q.1 q.2

/-- A section from its start to its end. -/
def Runs (s : S) (x y : σ) : Prop := ∃ l, P.exit l ∧ Run P (P.enter s, x) (l, y)

/-- The own steps commute with the statements of sections. -/
structure Movers : Prop where
  move : ∀ {l x l' y i o z}, P.inside l x l' y → P.own i y o z →
    ∃ y', P.own i x o y' ∧ P.inside l y' l' z

/-- What the atomic sections have come to: where a thread is in a section, its statements are still
to be counted. -/
structure Refines (c : Config ι σ S L) (a : Atomic ι σ S) : Prop where
  wants : ∀ i, a.wants i = (c.place i).wants
  free : c.locked = false → a.shared = c.shared
  run : ∀ i s l, c.place i = .holding s l → Run P (P.enter s, a.shared) (l, c.shared)

section
variable {P} {c : Config ι σ S L} {a : Atomic ι σ S}

/-- An own step during a section moves before its first statement. -/
theorem Movers.move_run (hm : Movers P) {p q : L × σ} {i : ι} {o : Option S} {z : σ}
    (hrun : Run P p q) (hown : P.own i q.2 o z) :
    ∃ y, P.own i p.2 o y ∧ Run P (p.1, y) (q.1, z) := by
  induction hrun generalizing z with
  | refl => exact ⟨z, hown, .refl⟩
  | tail _ hlast ih =>
    obtain ⟨y, hown', hlast'⟩ := hm.move hlast hown
    obtain ⟨y', hown'', hrun'⟩ := ih hown'
    exact ⟨y', hown'', hrun'.tail hlast'⟩

/-- While the lock is free, nothing is still to be counted. -/
theorem Refines.seen (h : Refines P c a) (hfree : c.locked = false) : c.seen = a := by
  obtain ⟨shared, wants⟩ := a
  obtain rfl : shared = c.shared := h.free hfree
  obtain rfl : wants = fun i => (c.place i).wants := funext h.wants
  rfl

end

/-! ## Steps -/

variable [DecidableEq ι]

inductive Step : Config ι σ S L → Config ι σ S L → Prop
  | own {c : Config ι σ S L} {i : ι} {o : Option S} {x : σ} : c.place i = .outside →
      P.own i c.shared o x →
      Step c { c with shared := x, place := Function.update c.place i (.ofWants o) }
  | lock {c : Config ι σ S L} {i : ι} {s : S} : c.place i = .waiting s → c.locked = false →
      Step c { c with
        locked := true, place := Function.update c.place i (.holding s (P.enter s)) }
  | inside {c : Config ι σ S L} {i : ι} {s : S} {l l' : L} {x : σ} : c.place i = .holding s l →
      P.inside l c.shared l' x →
      Step c { c with shared := x, place := Function.update c.place i (.holding s l') }
  | unlock {c : Config ι σ S L} {i : ι} {s : S} {l : L} : c.place i = .holding s l → P.exit l →
      Step c { c with locked := false, place := Function.update c.place i .outside }

inductive AtomicStep : Atomic ι σ S → Atomic ι σ S → Prop
  | own {a : Atomic ι σ S} {i : ι} {o : Option S} {x : σ} : a.wants i = none →
      P.own i a.shared o x → AtomicStep a ⟨x, Function.update a.wants i o⟩
  | runs {a : Atomic ι σ S} {i : ι} {s : S} {x : σ} : a.wants i = some s →
      Runs P s a.shared x → AtomicStep a ⟨x, Function.update a.wants i none⟩

/-- Before the threads have done anything. -/
def idle : Atomic ι σ S := ⟨P.init, fun _ => none⟩

def Reachable (c : Config ι σ S L) : Prop :=
  Relation.ReflTransGen (Step P) (idle P).unlocked c

def AtomicReachable (a : Atomic ι σ S) : Prop :=
  Relation.ReflTransGen (AtomicStep P) (idle P) a

variable {P} {c c' : Config ι σ S L} {a a' : Atomic ι σ S}
variable {place : ι → Place S L} {i k : ι} {p : Place S L}

/-! ## One thread has moved -/

/-- Who is in a section then. -/
theorem inSection_update (place : ι → Place S L) (i k : ι) (p : Place S L) :
    (Function.update place i p k).inSection =
      if k = i then p.inSection else (place k).inSection := by
  by_cases hk : k = i
  · rw [if_pos hk, hk, Function.update_self]
  · rw [if_neg hk, Function.update_of_ne hk]

/-- The same threads, if it neither gets into a section nor out of one. -/
theorem inSection_update_self (hp : p.inSection = (place i).inSection) (k : ι) :
    (Function.update place i p k).inSection = (place k).inSection := by
  rw [inSection_update]
  split
  · rename_i hk
    rw [hp, hk]
  · rfl

/-- A thread that is in a section then is the one that has moved, or was there before. -/
theorem update_eq_holding {s : S} {l : L} (h : Function.update place i p k = .holding s l) :
    (k = i ∧ p = .holding s l) ∨ (k ≠ i ∧ place k = .holding s l) := by
  by_cases hk : k = i
  · rw [hk, Function.update_self] at h
    exact .inl ⟨hk, h⟩
  · rw [Function.update_of_ne hk] at h
    exact .inr ⟨hk, h⟩

theorem wants_update {wants : ι → Option S} (h : ∀ k, wants k = (place k).wants) (i : ι)
    (p : Place S L) (k : ι) :
    Function.update wants i p.wants k = (Function.update place i p k).wants := by
  by_cases hk : k = i
  · rw [hk, Function.update_self, Function.update_self]
  · rw [Function.update_of_ne hk, Function.update_of_ne hk, h k]

/-- A move that leaves what its thread wants leaves what all want. -/
theorem wants_update_self {wants : ι → Option S} (h : ∀ k, wants k = (place k).wants)
    (hp : p.wants = (place i).wants) (k : ι) :
    wants k = (Function.update place i p k).wants := by
  rw [← wants_update h i p k, hp, ← h i, Function.update_eq_self]

/-! ## Mutual exclusion -/

theorem Exclusive.step (h : Exclusive c) (hstep : Step P c c') : Exclusive c' := by
  cases hstep with
  | own hi _ =>
    refine h.congr rfl (inSection_update_self ?_)
    rw [Place.inSection_ofWants, hi]
    rfl
  | @lock i s hi hfree =>
    have hnone : ∀ k, (c.place k).inSection = false := by
      intro k
      rw [← Bool.not_eq_true]
      intro hk
      rw [h.locked_iff.2 ⟨k, hk⟩] at hfree
      cases hfree
    have hone : ∀ k, (Function.update c.place i (.holding s (P.enter s)) k).inSection = true →
        k = i := by
      intro k hk
      rw [inSection_update, hnone] at hk
      by_contra hne
      rw [if_neg hne] at hk
      cases hk
    refine ⟨iff_of_true rfl ⟨i, ?_⟩, fun j k hj hk => (hone j hj).trans (hone k hk).symm⟩
    rw [inSection_update, if_pos rfl]
    rfl
  | inside hi _ =>
    refine h.congr rfl (inSection_update_self ?_)
    rw [hi]
    rfl
  | @unlock i s l hi _ =>
    have hnone : ∀ k, ¬ (Function.update c.place i .outside k).inSection = true := by
      intro k hk
      rw [inSection_update] at hk
      split at hk
      · cases hk
      · rename_i hne
        exact hne (h.unique k i hk (by rw [hi]; rfl))
    exact ⟨iff_of_false (by simp) fun ⟨k, hk⟩ => hnone k hk, fun j _ hj => absurd hj (hnone j)⟩

/-- **No two threads are in a section.** -/
theorem reachable_exclusive (h : Reachable P c) : Exclusive c := by
  refine Relation.ReflTransGen.invariant h ⟨iff_of_false (by simp [Atomic.unlocked]) ?_, ?_⟩
    fun hs he => he.step hs
  · rintro ⟨i, hi⟩
    cases hi
  · intro i j hi
    cases hi

/-! ## Sections are atomic -/

/-- **A statement is a step of atomic sections, or none.** -/
theorem Refines.step (hm : Movers P) (he : Exclusive c) (h : Refines P c a) (hstep : Step P c c') :
    ∃ a', Relation.ReflTransGen (AtomicStep P) a a' ∧ Refines P c' a' := by
  cases hstep with
  | @own i o x hi hown =>
    have hwants : a.wants i = none := by rw [h.wants, hi, Place.wants]
    have hwants' : ∀ k, Function.update a.wants i o k =
        (Function.update c.place i (.ofWants o) k).wants := by
      simpa using wants_update h.wants i (.ofWants o)
    have hplace : ∀ {k s l}, Function.update c.place i (.ofWants o) k = .holding s l →
        c.place k = .holding s l := by
      intro k s l hk
      rcases update_eq_holding hk with ⟨-, ho⟩ | ⟨-, hk'⟩
      · cases o <;> cases ho
      · exact hk'
    cases hlocked : c.locked with
    | false =>
      refine ⟨_, .single (.own hwants (h.free hlocked ▸ hown)), hwants', fun _ => rfl, ?_⟩
      intro k s l hk
      rw [he.locked_of_holding (hplace hk)] at hlocked
      cases hlocked
    | true =>
      -- the section in progress has not been counted: the own step goes before it
      obtain ⟨j, s, l, hj⟩ := he.holding_of_locked hlocked
      obtain ⟨y, hown', hrun⟩ := hm.move_run (h.run j s l hj) hown
      refine ⟨_, .single (.own hwants hown'), hwants', fun h' => ?_, fun k s' l' hk => ?_⟩
      · cases h'
      · have hk' := hplace hk
        obtain rfl := he.eq_of_holding hk' hj
        rw [hj] at hk'
        cases hk'
        exact hrun
  | @lock i s hi hfree =>
    refine ⟨a, .refl, wants_update_self h.wants (by rw [hi]; rfl), fun h' => ?_, ?_⟩
    · cases h'
    · intro k s' l hk
      rcases update_eq_holding hk with ⟨-, hp⟩ | ⟨-, hk'⟩
      · cases hp
        rw [h.free hfree]
        exact .refl
      · rw [he.locked_of_holding hk'] at hfree
        cases hfree
  | @inside i s l l' x hi hin =>
    refine ⟨a, .refl, wants_update_self h.wants (by rw [hi]; rfl), fun h' => ?_, ?_⟩
    · rw [he.locked_of_holding hi] at h'
      cases h'
    · intro k s' m hk
      rcases update_eq_holding hk with ⟨-, hp⟩ | ⟨hne, hk'⟩
      · cases hp
        exact (h.run i s l hi).tail hin
      · exact absurd (he.eq_of_holding hk' hi) hne
  | @unlock i s l hi hexit =>
    have hwants : a.wants i = some s := by rw [h.wants, hi, Place.wants]
    refine ⟨_, .single (.runs hwants ⟨l, hexit, h.run i s l hi⟩), wants_update h.wants i .outside,
      fun _ => rfl, ?_⟩
    intro k s' m hk
    rcases update_eq_holding hk with ⟨-, hp⟩ | ⟨hne, hk'⟩
    · cases hp
    · exact absurd (he.eq_of_holding hk' hi) hne

/-- **The atomic sections can follow every run.** -/
theorem reachable_refines (hm : Movers P) (h : Reachable P c) :
    ∃ a, AtomicReachable P a ∧ Refines P c a := by
  refine Relation.ReflTransGen.invariant_reached
    (P := fun c => ∃ a, AtomicReachable P a ∧ Refines P c a) h ?_ ?_
  · exact ⟨_, .refl, fun _ => rfl, fun _ => rfl, fun i s l hi => by cases hi⟩
  · rintro c c' hrun hstep ⟨a, ha, hrefines⟩
    obtain ⟨a', hsteps, hrefines'⟩ := hrefines.step hm (reachable_exclusive hrun) hstep
    exact ⟨a', ha.trans hsteps, hrefines'⟩

/-! ## Atomic sections run statement by statement -/

/-- A section runs with its thread holding the lock, and nobody else moves. -/
theorem Run.steps {s : S} {q r : L × σ} (hrun : Run P q r) :
    Relation.ReflTransGen (Step P) ⟨q.2, true, Function.update place i (.holding s q.1)⟩
      ⟨r.2, true, Function.update place i (.holding s r.1)⟩ := by
  induction hrun with
  | refl => exact .refl
  | @tail r t _ hlast ih =>
    have hstep : Step P ⟨r.2, true, Function.update place i (.holding s r.1)⟩ _ :=
      .inside (Function.update_self i _ place) hlast
    rw [Function.update_idem] at hstep
    exact ih.tail hstep

theorem unlock_update {s : S} {l : L} {x : σ} (hexit : P.exit l) :
    Step P ⟨x, true, Function.update place i (.holding s l)⟩
      ⟨x, false, Function.update place i .outside⟩ := by
  have hi : (⟨x, true, Function.update place i (.holding s l)⟩ : Config ι σ S L).place i =
      .holding s l := Function.update_self i _ place
  have hstep := Step.unlock hi hexit
  rwa [Function.update_idem] at hstep

/-- An atomic step is a run of the threads. -/
theorem AtomicStep.steps (h : AtomicStep P a a') :
    Relation.ReflTransGen (Step P) a.unlocked a'.unlocked := by
  have hplace : ∀ (wants : ι → Option S) (i : ι) (o : Option S),
      (fun k => (.ofWants (Function.update wants i o k) : Place S L)) =
        Function.update (fun k => .ofWants (wants k)) i (.ofWants o) := by
    intro wants i o
    exact Function.comp_update Place.ofWants wants i o
  cases h with
  | @own i o x hi hown =>
    have houtside : (a.unlocked : Config ι σ S L).place i = .outside := by
      simp [Atomic.unlocked, hi, Place.ofWants]
    have hstep : Step P a.unlocked _ := .own houtside hown
    unfold Atomic.unlocked at *
    rw [hplace]
    exact .single hstep
  | @runs i s x hi hruns =>
    obtain ⟨l, hexit, hrun⟩ := hruns
    have hwaiting : (a.unlocked : Config ι σ S L).place i = .waiting s := by
      simp [Atomic.unlocked, hi, Place.ofWants]
    have hlock : Step P a.unlocked _ := .lock hwaiting rfl
    unfold Atomic.unlocked at *
    rw [hplace]
    exact ((Relation.ReflTransGen.single hlock).trans hrun.steps).tail (unlock_update hexit)

/-- **What is seen while the lock is free is what is seen of atomic sections.** -/
theorem reachable_unlocked_iff (hm : Movers P) (a : Atomic ι σ S) :
    AtomicReachable P a ↔ ∃ c, Reachable P c ∧ c.locked = false ∧ c.seen = a := by
  constructor
  · intro h
    refine ⟨a.unlocked, ?_, rfl, a.seen_unlocked⟩
    have hstart : Reachable P (idle P).unlocked := .refl
    exact Relation.ReflTransGen.invariant (P := fun b => Reachable P b.unlocked) h hstart
      fun hstep hb => hb.trans hstep.steps
  · rintro ⟨c, hc, hfree, rfl⟩
    obtain ⟨a, ha, hrefines⟩ := reachable_refines hm hc
    rw [hrefines.seen hfree]
    exact ha

/-! ## No deadlock -/

/-- A thread in a section can leave it. -/
theorem exists_unlock (hends : ∀ l x, ∃ l' y, P.exit l' ∧ Run P (l, x) (l', y)) (i : ι) (s : S)
    (l : L) (x : σ) (place : ι → Place S L) : ∃ y, Relation.ReflTransGen (Step P)
      ⟨x, true, Function.update place i (.holding s l)⟩
      ⟨y, false, Function.update place i .outside⟩ := by
  obtain ⟨l', y, hexit, hrun⟩ := hends l x
  exact ⟨y, hrun.steps.tail (unlock_update hexit)⟩

/-- **No thread is kept out.** If every section can come to its end, any thread can leave the
section it is in or waits for. -/
theorem exists_outside (hends : ∀ l x, ∃ l' y, P.exit l' ∧ Run P (l, x) (l', y))
    (hc : Reachable P c) (i : ι) :
    ∃ c', Relation.ReflTransGen (Step P) c c' ∧ c'.locked = false ∧ c'.place i = .outside := by
  have hfree : ∃ c', Relation.ReflTransGen (Step P) c c' ∧ c'.locked = false ∧
      (c'.place i = c.place i ∨ c'.place i = .outside) := by
    cases hlocked : c.locked with
    | false => exact ⟨c, .refl, hlocked, .inl rfl⟩
    | true =>
      obtain ⟨j, s, l, hj⟩ := (reachable_exclusive hc).holding_of_locked hlocked
      obtain ⟨y, hsteps⟩ := exists_unlock hends j s l c.shared c.place
      have hself : (⟨c.shared, true, Function.update c.place j (.holding s l)⟩ : Config ι σ S L) =
          c := by
        rw [← hj, Function.update_eq_self, ← hlocked]
      rw [hself] at hsteps
      refine ⟨_, hsteps, rfl, ?_⟩
      by_cases hij : i = j
      · exact .inr (hij ▸ Function.update_self _ _ _)
      · exact .inl (Function.update_of_ne hij _ _)
  obtain ⟨c', hsteps, hunlocked, hplace⟩ := hfree
  cases hp : c'.place i with
  | outside => exact ⟨c', hsteps, hunlocked, hp⟩
  | waiting s =>
    have hlock := Step.lock (P := P) hp hunlocked
    obtain ⟨y, hleave⟩ := exists_unlock hends i s (P.enter s) c'.shared c'.place
    exact ⟨_, hsteps.trans (.head hlock hleave), rfl, Function.update_self _ _ _⟩
  | holding s l =>
    have hlocked := (reachable_exclusive (hc.trans hsteps)).locked_of_holding hp
    rw [hunlocked] at hlocked
    cases hlocked

end Mutex
