import CameraCoordinator.Coordinator.FanOut
import CameraCoordinator.Coordinator.Level

/-!
# Outputs after a cancellation

When the context is cancelled, a broadcast that waits for an output may be given up, but `Run` does
not return for it: at its next `select` both the cancelled context and a waiting event are ready,
and either may be taken. An event taken then is handled with an `active` that counts the broadcast
that was given up.

An output is well formed while its events about each device are On, Off, On, … (`WellFormed`). A
send keeps this exactly if the output has missed an even number of earlier emissions about the
device (`Matched`), so `well_formed_iff`: the outputs are well formed throughout a run exactly if
all its steps are matched.
-/

set_option autoImplicit false

namespace FanOut

open Coord (typesOf)

variable {n : Nat}

/-- The events sent to an output. -/
def Output.events (o : Output) : List CameraEvent := o.sent.map Prod.fst

/-- The events sent to each output about each device are On, Off, On, … -/
def WellFormed (s : State n) : Prop :=
  ∀ j v, Alternates cameraEventRecordingOn cameraEventRecordingOff
    (typesOf v (s.outputs j).events)

/-- How many emissions about the device, without the last emission, the output was not sent. -/
def State.missed (s : State n) (j : Fin n) (v : GoString) : Nat :=
  (typesOf v s.emitted.dropLast).length - (typesOf v (s.outputs j).events).length

/-- If the step sends an event to an output, the output has missed an even number of earlier
emissions about its device. -/
def Matched (s s' : State n) : Prop :=
  ∀ (j : Fin n) ev, s.pc = .broadcast ev j → (s'.outputs j).sent ≠ (s.outputs j).sent →
    Even (s.missed j ev.videoDevice)

theorem events_sublist {es : List CameraEvent} {o : Output} (h : o.sent.Sublist es.zipIdx) :
    o.events.Sublist es := by
  have hmap := h.map Prod.fst
  rwa [List.zipIdx_map_fst] at hmap

theorem length_typesOf_le {evs es : List CameraEvent} (h : evs.Sublist es) (v : GoString) :
    (typesOf v evs).length ≤ (typesOf v es).length := by
  unfold typesOf
  rw [List.length_map, List.length_map]
  exact (h.filter _).length_le

/-- A send keeps its output well formed exactly if the emission has the parity of what was sent. -/
theorem alternates_send_iff {es evs : List CameraEvent} {ev : CameraEvent} {v : GoString}
    (hes : Alternates cameraEventRecordingOn cameraEventRecordingOff (typesOf v (es ++ [ev])))
    (hevs : Alternates cameraEventRecordingOn cameraEventRecordingOff (typesOf v evs))
    (hle : (typesOf v evs).length ≤ (typesOf v es).length) (hv : ev.videoDevice = v) :
    Alternates cameraEventRecordingOn cameraEventRecordingOff (typesOf v (evs ++ [ev])) ↔
      Even ((typesOf v es).length - (typesOf v evs).length) := by
  have hne : cameraEventRecordingOn ≠ cameraEventRecordingOff := by decide
  have hsnoc : ∀ l, typesOf v (l ++ [ev]) = typesOf v l ++ [ev.type] := by
    intro l
    rw [Coord.typesOf_append]
    simp [typesOf, hv]
  rw [hsnoc, Alternates.snoc_iff] at hes
  rw [hsnoc, Alternates.snoc_iff, hes.2, Nat.even_sub hle, and_iff_right hevs]
  by_cases he : Even (typesOf v es).length <;> by_cases hs : Even (typesOf v evs).length <;>
    simp [he, hs, hne, hne.symm]

/-! ## One step -/

/-- A step that sends nothing keeps the outputs well formed and is matched. -/
theorem wellFormed_congr {s s' : State n} (hwf : WellFormed s)
    (hsent : ∀ j, (s'.outputs j).sent = (s.outputs j).sent) : WellFormed s' ↔ Matched s s' := by
  refine iff_of_true (fun j v => ?_) fun j ev _ hne => absurd (hsent j) hne
  unfold Output.events
  rw [hsent j]
  exact hwf j v

/-- A send. -/
theorem wellFormed_send {s : State n} {ev : CameraEvent} {i : Fin n} {o : Output} (hs : Inv s)
    (hwf : WellFormed s) (hpc : s.pc = .broadcast ev i) {k : Nat}
    (hpass : Passes ev k (s.outputs i) o) :
    WellFormed { s with
        pc := .broadcast ev (i + 1), outputs := Function.update s.outputs i o } ↔
      Even (s.missed i ev.videoDevice) := by
  obtain ⟨es, old, hem, -, hfan, -, hround⟩ := (fanned_of_broadcast hpc).1 hs.fanned
  have hold : (s.outputs i).sent = old i := (congrFun hround i).trans (inRound_self es ev old i)
  have hsub : (s.outputs i).events.Sublist es := events_sublist (hold ▸ hfan.sublist i)
  have hdrop : s.emitted.dropLast = es := by rw [hem, List.dropLast_concat]
  have hevents : o.events = (s.outputs i).events ++ [ev] := by
    unfold Output.events
    rw [hpass.sent_eq, List.map_append]
    rfl
  have hiff := alternates_send_iff
    (by rw [← hem, hs.emitted]; exact Coord.alternates_broadcasts s.received ev.videoDevice)
    (hwf i ev.videoDevice) (length_typesOf_le hsub ev.videoDevice) rfl
  unfold State.missed
  rw [hdrop, ← hiff, ← hevents]
  constructor
  · intro h
    have hi := h i ev.videoDevice
    simpa using hi
  · intro h j v
    show Alternates _ _ (typesOf v (Function.update s.outputs i o j).events)
    by_cases hj : j = i
    · subst hj
      rw [Function.update_self]
      by_cases hv : ev.videoDevice = v
      · exact hv ▸ h
      · have hother : typesOf v o.events = typesOf v (s.outputs j).events := by
          rw [hevents, Coord.typesOf_append]
          simp [typesOf, hv]
        rw [hother]
        exact hwf j v
    · rw [Function.update_of_ne hj]
      exact hwf j v

/-- **A step keeps the outputs well formed exactly if it is matched.** -/
theorem wellFormed_step {s s' : State n} (hs : Inv s) (hwf : WellFormed s) (hstep : Step s s') :
    WellFormed s' ↔ Matched s s' := by
  cases hstep with
  | @consume j o hcons =>
    refine wellFormed_congr hwf fun i => ?_
    by_cases hi : i = j
    · subst hi
      simpa using (Output.consume_eq hcons).1
    · simp [hi]
  | @send ev i o hpc hpass =>
    rw [wellFormed_send hs hwf hpc hpass]
    constructor
    · intro heven j ev' hpc' _
      rw [hpc] at hpc'
      injection hpc' with hev hij
      rw [← hev, ← Fin.ext hij]
      exact heven
    · intro h
      refine h i ev hpc ?_
      simp [hpass.sent_eq]
  | _ => exact wellFormed_congr hwf fun _ => rfl

theorem init_wellFormed (cap : Nat) (caps : Fin n → Nat) : WellFormed (init cap caps) := by
  intro j v
  exact trivial

theorem wellFormed_chain {ss : List (State n)} {s₀ : State n} (hs : Inv s₀) (hwf : WellFormed s₀)
    (hrun : List.IsChain Step (s₀ :: ss)) :
    (∀ s ∈ s₀ :: ss, WellFormed s) ↔ List.IsChain Matched (s₀ :: ss) := by
  induction ss generalizing s₀ with
  | nil => simpa using hwf
  | cons s₁ ss ih =>
    rw [List.isChain_cons_cons] at hrun ⊢
    have hstep := wellFormed_step hs hwf hrun.1
    have hs₁ := step_inv hs hrun.1
    constructor
    · intro h
      have hwf₁ := h s₁ (by simp)
      exact ⟨hstep.1 hwf₁, (ih hs₁ hwf₁ hrun.2).1 fun s hmem => h s (by simp [hmem])⟩
    · rintro ⟨hmatched, hrest⟩ s hmem
      have hwf₁ := hstep.2 hmatched
      rcases List.mem_cons.1 hmem with rfl | hmem
      · exact hwf
      · exact (ih hs₁ hwf₁ hrun.2).2 hrest s hmem

/-- **When the outputs stay well formed.** In a run on any channels, with any cancellation and any
choice at each `select`, the outputs are well formed in every state exactly if every event that is
sent to an output finds the output to have missed an even number of earlier emissions about its
device. -/
theorem well_formed_iff (cap : Nat) (caps : Fin n → Nat) (ss : List (State n))
    (hrun : List.IsChain Step (init cap caps :: ss)) :
    (∀ s ∈ init cap caps :: ss, WellFormed s) ↔ List.IsChain Matched (init cap caps :: ss) :=
  wellFormed_chain (init_inv cap caps) (init_wellFormed cap caps) hrun

/-- A cancelled run that gives up the broadcast of an On and then receives the Off. -/
theorem off_without_on : ∃ s : State 1, Reachable 0 (fun _ => 1) s ∧ ¬ WellFormed s := by
  have h0 : Reachable 0 (fun _ => 1) (init 0 fun _ : Fin 1 => 1) := .refl
  have h1 := h0.tail .cancel
  have h2 := h1.tail (.recvHandoff (.test cameraEventRecordingOn) (.ok .capture) rfl ⟨rfl, rfl⟩)
  have h3 := h2.tail (.giveUp (i := 0) rfl rfl)
  have h4 := h3.tail (.recvHandoff (.test cameraEventRecordingOff) (.ok .capture) rfl ⟨rfl, rfl⟩)
  have h5 := h4.tail (.send (i := 0) rfl (.buffer rfl))
  refine ⟨_, h5, fun hwf => ?_⟩
  have hoff : cameraEventRecordingOff = cameraEventRecordingOn := (hwf 0 (goString "video0")).1
  exact absurd hoff (by decide)

/-- The broadcasts of an On and an Off are given up, and the next On is sent. -/
theorem well_formed_after_two_missed : ∃ ss, ∃ s ∈ init 0 (fun _ : Fin 1 => 1) :: ss,
    List.IsChain Step (init 0 (fun _ : Fin 1 => 1) :: ss) ∧ s.emitted.length = 3 ∧
    (s.outputs 0).sent.length = 1 ∧ WellFormed s := by
  have hquiet : ∀ {s s' : State 1}, (∀ j, (s'.outputs j).sent = (s.outputs j).sent) →
      Matched s s' := fun h j _ _ hne => absurd (h j) hne
  have h0 : Relation.ReflTransGen (fun s s' => Step s s' ∧ Matched s s')
    (init 0 fun _ : Fin 1 => 1) _ := .refl
  have h1 := h0.tail ⟨.cancel, hquiet fun _ => rfl⟩
  have h2 := h1.tail ⟨.recvHandoff (.test cameraEventRecordingOn) (.ok .capture) rfl ⟨rfl, rfl⟩,
    hquiet fun _ => rfl⟩
  have h3 := h2.tail ⟨.giveUp (i := 0) rfl rfl, hquiet fun _ => rfl⟩
  have h4 := h3.tail ⟨.recvHandoff (.test cameraEventRecordingOff) (.ok .capture) rfl ⟨rfl, rfl⟩,
    hquiet fun _ => rfl⟩
  have h5 := h4.tail ⟨.giveUp (i := 0) rfl rfl, hquiet fun _ => rfl⟩
  have h6 := h5.tail ⟨.recvHandoff (.test cameraEventRecordingOn) (.ok .capture) rfl ⟨rfl, rfl⟩,
    hquiet fun _ => rfl⟩
  have h7 := h6.tail ⟨.send (i := 0) rfl (.buffer rfl), fun j ev hpc _ => by
    rw [Subsingleton.elim j 0, ← (Pc.broadcast.inj hpc).1]
    exact ⟨1, rfl⟩⟩
  obtain ⟨ss, hchain, hlast⟩ := List.exists_isChain_cons_of_relationReflTransGen h7
  have hrun := hchain.imp fun _ _ h => h.1
  have hwf := (well_formed_iff 0 (fun _ => 1) ss hrun).2 (hchain.imp fun _ _ h => h.2)
  have hmem := List.getLast_mem (List.cons_ne_nil (init 0 fun _ : Fin 1 => 1) ss)
  rw [hlast] at hmem
  exact ⟨ss, _, hmem, hrun, rfl, rfl, hwf _ hmem⟩

end FanOut
