import CameraCoordinator.Main.System

/-!
# Shutdown

What the joins of `main` and of the detectors are for. `closed_after_senders`: `allEvents` and the
notifier channels are closed once, when none of their senders is left. `no_deadlock`: after
cancellation some goroutine has a step that needs nothing from outside, until all have finished.

The waits are taken in the order of the joins: a detector that has not returned has a step
(`exists_detector_step`), then the goroutine that waits for the detectors has one, then the
coordinator's goroutine and the notifiers.
-/

set_option autoImplicit false

namespace Main

variable {d n : Nat} {kinds : Fin n → Kind} {s s' : State d n}

/-! ## Closed channels -/

/-- The runs of the program from a state on. -/
def Runs (kinds : Fin n → Kind) : State d n → State d n → Prop :=
  Relation.ReflTransGen fun s s' => ∃ a, Step kinds a s s'

theorem Reachable.runs (hs : Reachable kinds s) (h : Runs kinds s s') : Reachable kinds s' :=
  Relation.ReflTransGen.trans hs h

theorem DetectorsReturned.runs (hs : Reachable kinds s) (h : Runs kinds s s')
    (hret : DetectorsReturned s) : DetectorsReturned s' := by
  refine h.invariant_reached hret fun hrun hstep hu => ?_
  obtain ⟨a, hstep⟩ := hstep
  exact hu.step hstep (reachable_inv (hs.runs hrun))

/-- `coord.Run` that has returned takes no further step. -/
theorem Step.fan_returned {a : Actor d n} (h : Step kinds a s s') (hpc : s.fan.pc = .returned) :
    s'.fan.pc = .returned := by
  cases h with
  | pass _ _ hpc' _ | send hpc' _ | giveUp hpc' _ | finish hpc' =>
    rw [hpc] at hpc'
    cases hpc'
  | recvDone | recvClosed => rfl
  | _ => exact hpc

theorem fan_returned_runs (h : Runs kinds s s') (hpc : s.fan.pc = .returned) :
    s'.fan.pc = .returned :=
  h.invariant_labelled hpc Step.fan_returned

/-- A detector whose `Run` has returned is at no send. -/
theorem not_send_of_returned {ctxDone : Bool} {t t' : Detect.State} {ev : CameraEvent}
    {err : Option GoString} (ht : Detect.Inv ctxDone t) (ho : t.outer = .returned err) :
    ¬ Detect.Step ctxDone t (.send ev) t' := by
  intro h
  have hsent := (h.of_returned ht ho).2
  cases h
  simp at hsent

theorem Inv.detectorsReturned (hs : Inv kinds s) (hc : s.fan.events.closed = true) :
    DetectorsReturned s := by
  have hev := hs.events
  unfold EventsClosed at hev
  split at hev
  · simp [hc] at hev
  · simp [hc] at hev
  · exact hev.1

theorem Inv.eventsCloses_le (hs : Inv kinds s) : s.eventsCloses ≤ 1 := by
  have hev := hs.events
  unfold EventsClosed at hev
  split at hev <;> omega

theorem Inv.fan_returned (hs : Inv kinds s) {j : Fin n} (hc : 0 < s.outCloses j) :
    s.fan.pc = .returned := by
  have hout := hs.outs
  unfold OutsClosed at hout
  split at hout
  · simp [hout j] at hc
  · exact hout.1
  · exact hout.1

theorem Inv.outCloses_le (hs : Inv kinds s) (j : Fin n) : s.outCloses j ≤ 1 := by
  have hout := hs.outs
  unfold OutsClosed at hout
  split at hout
  · simp [hout j]
  · rw [hout.2.2 j]
    split <;> omega
  · exact (hout.2 j).le

/-- **No send on a closed channel, no double close.** Once `allEvents` is closed no detector is ever
at a send again, once a notifier channel is closed the coordinator is not at one again, and each of
these channels is closed at most once. -/
theorem closed_after_senders (kinds : Fin n → Kind) (s : State d n) (hs : Reachable kinds s) :
    (s.fan.events.closed = true → ∀ s', Runs kinds s s' → ∀ i ev t,
      ¬ Detect.Step s'.fan.ctxDone (s'.detectors i) (.send ev) t) ∧
    (∀ j, 0 < s.outCloses j → ∀ s', Runs kinds s s' → s'.fan.pc = .returned) ∧
    s.eventsCloses ≤ 1 ∧ ∀ j, s.outCloses j ≤ 1 := by
  have hinv := reachable_inv hs
  refine ⟨fun hc s' hrun i ev t => ?_, fun j hc s' hrun => ?_, hinv.eventsCloses_le,
    hinv.outCloses_le⟩
  · obtain ⟨err, ho⟩ := (hinv.detectorsReturned hc).runs hs hrun i
    exact not_send_of_returned ((reachable_inv (hs.runs hrun)).detectors i) ho
  · exact fan_returned_runs hrun (hinv.fan_returned hc)

/-- The one detector fails to load its objects, and everything is closed. -/
theorem closed_after_failed_setup : ∃ s : State 1 1, Reachable (fun _ => .script) s ∧
    s.fan.events.closed = true ∧ 0 < s.outCloses 0 ∧ s.eventsCloses ≤ 1 ∧ s.outCloses 0 ≤ 1 := by
  have h0 : Reachable (d := 1) (fun _ : Fin 1 => .script) (init _) := .refl
  have h1 := h0.tail ⟨_, .detector (i := 0) (.setupFails (goString "not permitted") rfl)⟩
  have h2 := h1.tail ⟨_, .detectorsDone rfl fun i => ⟨_, by
    rw [Subsingleton.elim i 0]
    rfl⟩⟩
  have h3 := h2.tail ⟨_, .closeEvents rfl⟩
  have h4 := h3.tail ⟨_, .recvClosed rfl rfl⟩
  have h5 := h4.tail ⟨_, .coordDone rfl rfl⟩
  have h6 := h5.tail ⟨_, .closeOut (j := 0) rfl⟩
  have hclosed := closed_after_senders _ _ h6
  exact ⟨_, h6, rfl, by decide, hclosed.2.2.1, hclosed.2.2.2 0⟩

/-! ## Deadlock -/

/-- The goroutines joined by `wg` have finished. -/
def Joined (s : State d n) : Prop :=
  s.closer = .finished ∧ s.coordinator = .finished ∧ ∀ j, ∃ err, s.notifiers j = .returned err

/-- Some goroutine has a step that needs nothing from the environment. -/
def Moves (kinds : Fin n → Kind) (s : State d n) : Prop :=
  ∃ a s', a ≠ .environment ∧ Step kinds a s s'

/-- After cancellation, a detector that has not returned has a step of its own. -/
theorem exists_detector_step {t : Detect.State} (ht : Detect.Inv true t)
    (ho : ∀ err, t.outer ≠ .returned err) : ∃ t', Detect.Step true t .tau t' := by
  cases houter : t.outer with
  | setup call =>
    cases hnext : call.next with
    | none => exact ⟨_, .start houter hnext⟩
    | some call' => exact ⟨_, .setup houter hnext⟩
  | select => exact ⟨_, .done houter rfl⟩
  | closing err => exact ⟨_, .close houter⟩
  | waiting err =>
    -- the reader goroutine is on its way to its end
    have hwaits := ht.waits
    unfold Detect.Waits at hwaits
    rw [houter] at hwaits
    obtain ⟨hstarted, hclosed, -⟩ := hwaits
    cases hreader : t.reader with
    | notStarted => exact absurd hreader hstarted
    | readInto => exact ⟨_, .readClosed hreader hclosed⟩
    | sending ev => exact ⟨_, .sendDone hreader rfl⟩
    | reporting err =>
      obtain ⟨c, hc⟩ := ht.exists_send hreader
      exact ⟨_, .report hreader hc⟩
    | finished => exact ⟨_, .wait houter hreader⟩
  | returned err => exact absurd houter (ho err)

/-- The goroutine that closes `allEvents` waits only for detectors that have steps. -/
theorem moves_of_closer (hs : Inv kinds s) (hctx : s.fan.ctxDone = true)
    (hc : s.closer ≠ .finished) : Moves kinds s := by
  cases hcloser : s.closer with
  | waiting =>
    by_cases hret : DetectorsReturned s
    · exact ⟨_, _, by simp, .detectorsDone hcloser hret⟩
    · unfold DetectorsReturned at hret
      push Not at hret
      obtain ⟨i, hi⟩ := hret
      have hdet := hs.detectors i
      rw [hctx] at hdet
      obtain ⟨t, ht⟩ := exists_detector_step hdet hi
      rw [← hctx] at ht
      exact ⟨_, _, by simp, .detector ht⟩
  | closing => exact ⟨_, _, by simp, .closeEvents hcloser⟩
  | finished => exact absurd hcloser hc

/-- A broadcast is at one of the outputs or through. -/
theorem Inv.broadcast_le (hs : Inv kinds s) {ev : CameraEvent} {i : Nat}
    (hpc : s.fan.pc = .broadcast ev i) : i ≤ n := by
  have hfanned := (FanOut.reachable_inv hs.fan).fanned
  rw [FanOut.fanned_of_broadcast hpc] at hfanned
  obtain ⟨_, _, -, hle, -⟩ := hfanned
  exact hle

/-- Once `coord.Run` has returned, its goroutine closes the notifier channels. -/
theorem moves_of_returned (hs : Inv kinds s) (hpc : s.fan.pc = .returned)
    (hc : s.coordinator ≠ .finished) : Moves kinds s := by
  cases hcoord : s.coordinator with
  | running => exact ⟨_, _, by simp, .coordDone hcoord hpc⟩
  | closing i =>
    have hout := hs.outs
    unfold OutsClosed at hout
    rw [hcoord] at hout
    rcases Nat.lt_or_ge i n with hi | hi
    · exact ⟨_, _, by simp, .closeOut (j := ⟨i, hi⟩) hcoord⟩
    · obtain rfl : i = n := Nat.le_antisymm hout.2.1 hi
      exact ⟨_, _, by simp, .closedAll hcoord⟩
  | finished => exact absurd hcoord hc

/-- Every wait of the coordinator has the cancellation as an alternative. -/
theorem moves_of_coordinator (hs : Inv kinds s) (hctx : s.fan.ctxDone = true)
    (hc : s.coordinator ≠ .finished) : Moves kinds s := by
  cases hpc : s.fan.pc with
  | select => exact ⟨_, _, by simp, .recvDone hpc hctx⟩
  | broadcast ev i =>
    rcases Nat.lt_or_ge i n with hi | hi
    · exact ⟨_, _, by simp, .giveUp (j := ⟨i, hi⟩) hpc hctx⟩
    · obtain rfl : i = n := Nat.le_antisymm (hs.broadcast_le hpc) hi
      exact ⟨_, _, by simp, .finish hpc⟩
  | returned => exact moves_of_returned hs hpc hc

theorem moves_of_notifier (hctx : s.fan.ctxDone = true) {j : Fin n}
    (hj : ∀ err, s.notifiers j ≠ .returned err) : Moves kinds s := by
  cases hp : s.notifiers j with
  | connecting => exact ⟨_, _, by simp, .connect hp⟩
  | receiving => exact ⟨_, _, by simp, .notifierDone hp hctx⟩
  | emitting ev => exact ⟨_, _, by simp, .emitted hp⟩
  | returned err => exact absurd hp (hj err)

/-- The joins are waited for one after the other, and whatever is waited for moves. -/
theorem Inv.moves (hs : Inv kinds s) (hctx : s.fan.ctxDone = true) (hnot : ¬ Joined s) :
    Moves kinds s := by
  by_cases hcloser : s.closer = .finished
  · by_cases hcoord : s.coordinator = .finished
    · unfold Joined at hnot
      push Not at hnot
      obtain ⟨j, hj⟩ := hnot hcloser hcoord
      exact moves_of_notifier hctx hj
    · exact moves_of_coordinator hs hctx hcoord
  · exact moves_of_closer hs hctx hcloser

/-- **Shutdown cannot deadlock.** After cancellation, unless the goroutines joined by `main` have
finished, some goroutine has a step that needs nothing from the environment; and when they have
finished, so have the goroutines of all detectors. -/
theorem no_deadlock (kinds : Fin n → Kind) (s : State d n) (hs : Reachable kinds s)
    (hctx : s.fan.ctxDone = true) :
    (¬ Joined s → ∃ a s', a ≠ .environment ∧ Step kinds a s s') ∧
    (Joined s → ∀ i, (∃ err, (s.detectors i).outer = .returned err) ∧
      ((s.detectors i).reader = .notStarted ∨ (s.detectors i).reader = .finished)) := by
  have hinv := reachable_inv hs
  refine ⟨hinv.moves hctx, fun hjoined i => ?_⟩
  have hev := hinv.events
  unfold EventsClosed at hev
  rw [hjoined.1] at hev
  obtain ⟨err, ho⟩ := hev.1 i
  exact ⟨⟨err, ho⟩, (hinv.detectors i).reader_of_returned ho⟩

/-- A detector and a notifier, cancelled at once. -/
theorem moves_after_cancel : ∃ s : State 1 1, Reachable (fun _ => .dbus) s ∧
    s.fan.ctxDone = true ∧ ∃ a s', a ≠ .environment ∧ Step (fun _ => .dbus) a s s' := by
  have h0 : Reachable (d := 1) (fun _ : Fin 1 => .dbus) (init _) := .refl
  have h1 := h0.tail ⟨_, .cancel⟩
  have hnot : ¬ Joined (init (d := 1) fun _ : Fin 1 => .dbus).cancel := fun h => by cases h.1
  exact ⟨_, h1, rfl, (no_deadlock _ _ h1 rfl).1 hnot⟩

end Main
