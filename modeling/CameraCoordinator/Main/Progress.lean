import CameraCoordinator.Main.DeadNotifier
import Mathlib.Algebra.BigOperators.Fin

/-!
# Progress

What the goroutines of the program do by themselves ends: every step that is none of the environment
lowers `State.work`, and a step of the environment raises it by what one event leads to. Nothing is
assumed of the scheduler.

`shutdown_terminates`: after cancellation the steps of the goroutines are bounded in every run, and
wherever they have none left, the goroutines joined by `main` have finished.
-/

set_option autoImplicit false

namespace Main

variable {d n : Nat}

/-! ## Work -/

/-- The calls of the setup that are left. -/
def setupCalls : Detect.Setup → Nat
  | .loadObjects => 5
  | .attachStreamon => 4
  | .attachStreamoff => 3
  | .attachFopRelease => 2
  | .newReader => 1

/-- The steps of `Run` that are left, with those of the reader goroutine it has yet to start. -/
def outerWork : Detect.Outer → Nat
  | .setup call => 5 + setupCalls call
  | .select => 3
  | .closing _ => 2
  | .waiting _ => 1
  | .returned _ => 0

/-- The steps of a reader goroutine, and what an event it is about to send leads to at `n`
notifiers. -/
def readerWork (n : Nat) : Detect.Reader → Nat
  | .notStarted => 0
  | .readInto => 2
  | .sending _ => 3 * n + 4
  | .reporting _ => 1
  | .finished => 0

def detectorWork (n : Nat) (t : Detect.State) : Nat := outerWork t.outer + readerWork n t.reader

def closerWork : Closer → Nat
  | .waiting => 2
  | .closing => 1
  | .finished => 0

/-- The sends of `coord.Run`, with what the notifiers do with them. -/
def pcWork (n : Nat) : FanOut.Pc → Nat
  | .select => 1
  | .broadcast _ i => 3 * (n - i) + 2
  | .returned => 0

def coordinatorWork (n : Nat) : Coordinator → Nat
  | .running => n + 2
  | .closing i => n - i + 1
  | .finished => 0

def notifierWork : Notifier → Nat
  | .connecting => 2
  | .receiving => 1
  | .emitting _ => 2
  | .returned _ => 0

/-- The events in a notifier channel. -/
def outputWork (o : FanOut.Output) : Nat := 2 * o.chan.buf.length

/-- A bound on the steps that the goroutines take by themselves. -/
def State.work (s : State d n) : Nat :=
  (∑ i, detectorWork n (s.detectors i)) + closerWork s.closer + pcWork n s.fan.pc +
    coordinatorWork n s.coordinator + (∑ j, notifierWork (s.notifiers j)) +
    ∑ j, outputWork (s.fan.outputs j)

/-- A sum of which one term changes. -/
theorem sum_update_add {α : Type*} {m : Nat} (g : α → Nat) (f : Fin m → α) (i : Fin m) (a : α) :
    (∑ j, g (Function.update f i a j)) + g (f i) = (∑ j, g (f j)) + g a := by
  have hrest : ∑ j ∈ Finset.univ.erase i, g (Function.update f i a j) =
      ∑ j ∈ Finset.univ.erase i, g (f j) := by
    refine Finset.sum_congr rfl fun j hj => ?_
    rw [Function.update_of_ne (Finset.ne_of_mem_erase hj)]
  rw [← Finset.add_sum_erase _ _ (Finset.mem_univ i), hrest, Function.update_self,
    ← Finset.add_sum_erase _ (fun j => g (f j)) (Finset.mem_univ i)]
  omega

/-! ## One step -/

/-- A step of a detector by itself lowers its work. -/
theorem detectorWork_tau {ctxDone : Bool} {t t' : Detect.State} (n : Nat)
    (h : Detect.Step ctxDone t .tau t') : detectorWork n t' < detectorWork n t := by
  unfold detectorWork
  cases h with
  | @setup call call' ho hnext =>
    have hcalls : setupCalls call' < setupCalls call := by
      cases call <;> cases hnext <;> decide
    simp only [ho, outerWork]
    omega
  | setupFails err ho =>
    simp only [ho, outerWork]
    omega
  | @start call ho hnext =>
    have hcalls : 1 ≤ setupCalls call := by cases call <;> decide
    simp only [ho, outerWork, readerWork]
    omega
  | done ho _ | recvErr ho _ | close ho | wait ho _ =>
    simp only [ho, outerWork]
    omega
  | readClosed hr _ | sendDone hr _ | report hr _ =>
    simp only [hr, readerWork]
    omega

/-- A send frees what the event may lead to. -/
theorem detectorWork_send {ctxDone : Bool} {t t' : Detect.State} {ev : CameraEvent} (n : Nat)
    (h : Detect.Step ctxDone t (.send ev) t') :
    detectorWork n t' + (3 * n + 2) = detectorWork n t := by
  unfold detectorWork
  cases h with
  | send hr =>
    simp only [hr, readerWork]
    omega

/-- A record adds an event to be sent. -/
theorem detectorWork_kernel {ctxDone : Bool} {t t' : Detect.State} (n : Nat)
    (h : Detect.Step ctxDone t .kernel t') :
    detectorWork n t' ≤ detectorWork n t + (3 * n + 2) := by
  unfold detectorWork
  cases h with
  | readRecord rec hr _ =>
    simp only [Detect.State.handle, hr]
    cases Detect.onRecord rec <;> · dsimp only [readerWork]; omega
  | readFails _ hr _ =>
    simp only [hr, readerWork]
    omega

/-- A detector that has returned takes no step by itself. -/
theorem not_tau_of_returned {ctxDone : Bool} {t t' : Detect.State} {err : Option GoString}
    (ht : Detect.Inv ctxDone t) (ho : t.outer = .returned err) :
    ¬ Detect.Step ctxDone t .tau t' := by
  intro h
  have hend := ht.reader_of_returned ho
  cases h with
  | setup h | setupFails _ h | start h | done h | recvErr h | close h | wait h =>
    rw [ho] at h
    cases h
  | readClosed h | sendDone h | report h =>
    rcases hend with hr | hr <;> · rw [h] at hr; cases hr

/-- An event leads to at most one broadcast. -/
theorem pcWork_handle (s : FanOut.State n) (r : Coord.Received) :
    pcWork n (s.handle r).pc ≤ 3 * n + 2 := by
  unfold FanOut.State.handle
  dsimp only
  cases (Coord.onEvent s.active r).2 <;> simp [pcWork]

theorem notifierWork_onEvent (k : Kind) (ev : CameraEvent) : notifierWork (k.onEvent ev) ≤ 2 := by
  cases k <;> simp [Kind.onEvent, notifierWork]

section
variable {kinds : Fin n → Kind} {a : Actor d n} {s s' : State d n}

/-- A notifier that gets on lowers the work. -/
theorem work_setNotifier {j : Fin n} {p : Notifier}
    (hlt : notifierWork p < notifierWork (s.notifiers j)) : (s.setNotifier j p).work < s.work := by
  have hsum := sum_update_add notifierWork s.notifiers j p
  simp only [State.work, State.setNotifier]
  omega

/-- **Every step of a goroutine lowers the work.** -/
theorem Step.work_lt (h : Step kinds a s s') (ha : a ≠ .environment) : s'.work < s.work := by
  cases h with
  | cancel => exact absurd rfl ha
  | kernel => exact absurd rfl ha
  | @detector _ i t ht =>
    have hlt := detectorWork_tau n ht
    have hsum := sum_update_add (detectorWork n) s.detectors i t
    simp only [State.work, State.setDetector]
    omega
  | @pass _ i t ev query ht hpc _ =>
    have hsend := detectorWork_send n ht
    have hsum := sum_update_add (detectorWork n) s.detectors i t
    have hle := pcWork_handle { s.fan with offered := s.fan.offered ++ [ev] } ⟨ev, query⟩
    have hselect : pcWork n s.fan.pc = 1 := by simp [hpc, pcWork]
    simp only [State.work, State.setDetector, State.receive, FanOut.State.handle] at hle ⊢
    omega
  | detectorsDone hc _ | closeEvents hc =>
    simp only [State.work, State.closeEvents, hc, closerWork]
    omega
  | recvDone hpc _ | recvClosed hpc _ | giveUp hpc _ | finish hpc =>
    simp only [State.work, State.setPc, hpc, pcWork]
    omega
  | @send _ ev j c hpc hsend =>
    have hsum := sum_update_add outputWork s.fan.outputs j { s.fan.outputs j with
      chan := c, sent := (s.fan.outputs j).sent ++ [(ev, s.fan.emitted.length - 1)] }
    have hbuf : c.buf.length = (s.fan.outputs j).chan.buf.length + 1 := by
      rw [Chan.buf_of_send hsend, List.length_append, List.length_singleton]
    have hj := j.isLt
    simp only [State.work, State.setPc, State.setOutput, hpc, pcWork, outputWork] at hsum ⊢
    omega
  | coordDone hc _ | closedAll hc =>
    simp only [State.work, hc, coordinatorWork]
    omega
  | @closeOut _ j hc =>
    have hj := j.isLt
    simp only [State.work, hc, coordinatorWork]
    omega
  | connect hp | connectFails err hp | notifierDone hp _ | consumeClosed hp _ _ | emitted hp =>
    exact work_setNotifier (by simp [hp, notifierWork])
  | @consume _ j ev c hp hrecv =>
    have hsum := sum_update_add notifierWork s.notifiers j ((kinds j).onEvent ev)
    have hout := sum_update_add outputWork s.fan.outputs j { s.fan.outputs j with
      chan := c, consumed := (s.fan.outputs j).consumed ++ [ev] }
    have hle := notifierWork_onEvent (kinds j) ev
    have hbuf : (s.fan.outputs j).chan.buf.length = c.buf.length + 1 := by
      rw [(Chan.recv_some hrecv).1, List.length_cons]
    have hreceiving : notifierWork (s.notifiers j) = 1 := by simp [hp, notifierWork]
    simp only [outputWork] at hout
    simp only [State.work, State.setNotifier, State.setOutput, outputWork]
    omega

/-- The environment raises the work by an event that it hands to a detector. -/
theorem Step.work_le (h : Step kinds .environment s s') : s'.work ≤ s.work + (3 * n + 2) := by
  cases h with
  | cancel => exact Nat.le_add_right _ _
  | @kernel _ i t ht =>
    have hsum := sum_update_add (detectorWork n) s.detectors i t
    have hle := detectorWork_kernel n ht
    simp only [State.work, State.setDetector]
    omega

/-- The context stays cancelled. -/
theorem Step.ctxDone (h : Step kinds a s s') (hctx : s.fan.ctxDone = true) :
    s'.fan.ctxDone = true := by
  rcases h.detectors with ⟨hc, -⟩ | ⟨hc, -⟩ | ⟨hc, -⟩
  · exact hc
  · exact hc.trans hctx
  · exact hc.trans hctx

/-! ## Shutdown -/

/-- The goroutines that `main` has joined take no step. -/
theorem Joined.not_moves (hs : Inv kinds s) (h : Joined s) : ¬ Moves kinds s := by
  obtain ⟨hcloser, hcoord, hnot⟩ := h
  have hpc : s.fan.pc = .returned := by
    have hout := hs.outs
    unfold OutsClosed at hout
    rw [hcoord] at hout
    exact hout.1
  have hret : DetectorsReturned s := by
    have hev := hs.events
    unfold EventsClosed at hev
    rw [hcloser] at hev
    exact hev.1
  rintro ⟨a, s', ha, hstep⟩
  cases hstep with
  | cancel | kernel => exact ha rfl
  | @detector _ i t ht =>
    obtain ⟨err, ho⟩ := hret i
    exact not_tau_of_returned (hs.detectors i) ho ht
  | pass _ _ hpc' _ | recvDone hpc' _ | recvClosed hpc' _ | send hpc' _ | giveUp hpc' _
  | finish hpc' =>
    rw [hpc] at hpc'
    cases hpc'
  | detectorsDone hc _ | closeEvents hc =>
    rw [hcloser] at hc
    cases hc
  | coordDone hc _ | closeOut hc | closedAll hc =>
    rw [hcoord] at hc
    cases hc
  | @connect _ j hp | @connectFails _ j _ hp | @notifierDone _ j hp _ | @consume _ j _ _ hp _
  | @consumeClosed _ j hp _ _ | @emitted _ j _ hp =>
    obtain ⟨err, hj⟩ := hnot j
    rw [hj] at hp
    cases hp

/-- After cancellation, what has no step is what has been joined. -/
theorem Inv.moves_iff (hs : Inv kinds s) (hctx : s.fan.ctxDone = true) :
    Moves kinds s ↔ ¬ Joined s :=
  ⟨fun hm hj => hj.not_moves hs hm, hs.moves hctx⟩

/-- **Shutdown terminates.** After cancellation, whatever the order in which goroutines and
environment take their steps, the goroutines take at most as many as there is work, and `3 * n + 2`
more for each step of the environment; they are joined exactly where they have no step left; and
such a state can be reached without the environment. -/
theorem shutdown_terminates (kinds : Fin n → Kind) (s : State d n) (hs : Reachable kinds s)
    (hctx : s.fan.ctxDone = true) :
    (∀ as s', Relation.Trace (Step kinds) as s s' →
      as.countP (fun a => a ≠ .environment) ≤
        s.work + (3 * n + 2) * as.countP (fun a => a = .environment) ∧
      ((¬ ∃ a s'', a ≠ .environment ∧ Step kinds a s' s'') ↔ Joined s')) ∧
    ∃ s', OwnRuns kinds s s' ∧ Joined s' := by
  have hjoined : ∀ s', Runs kinds s s' → (¬ Moves kinds s' ↔ Joined s') := by
    intro s' hrun
    have hctx' := hrun.invariant_labelled (P := fun s => s.fan.ctxDone = true) hctx Step.ctxDone
    rw [(reachable_inv (hs.runs hrun)).moves_iff hctx', not_not]
  refine ⟨fun as s' htrace => ⟨?_, hjoined s' htrace.run⟩, ?_⟩
  · exact Nat.le_of_add_right_le (htrace.count_le (p := fun a => a = .environment)
      (fun h ha => h.work_lt ha) fun h ha => (ha ▸ h).work_le)
  · obtain ⟨s', hrun, hstuck⟩ := Relation.ReflTransGen.exists_stuck
      (r := fun s s' => ∃ a, a ≠ .environment ∧ Step kinds a s s') (μ := State.work)
      (fun ⟨_, ha, h⟩ => h.work_lt ha) s
    refine ⟨s', hrun, (hjoined s' ?_).1 ?_⟩
    · exact Relation.ReflTransGen.mono (fun _ _ ⟨a, _, h⟩ => ⟨a, h⟩) _ _ hrun
    · rintro ⟨a, s'', hstep⟩
      exact hstuck s'' ⟨a, hstep⟩

/-- A detector and a notifier, cancelled at once. -/
theorem joined_after_cancel : ∃ s' : State 1 1,
    OwnRuns (fun _ => .dbus) (init fun _ => .dbus).cancel s' ∧ Joined s' :=
  (shutdown_terminates _ _ (.single ⟨_, .cancel⟩) rfl).2

end

end Main
