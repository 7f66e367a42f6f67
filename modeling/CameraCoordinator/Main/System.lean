import CameraCoordinator.Coordinator.FanOut
import CameraCoordinator.Detector.Goroutines

/-!
# The program

The goroutines that `main` starts and the channels between them, as a step relation: any number of
detectors (`Detect.Step`), the goroutine that closes `allEvents` when they are done, the coordinator
(`FanOut.State`) with the closing of the notifier channels after it, and any number of notifiers.
Steps are labelled by the goroutine that takes them; the environment cancels the context, hands
records to the ring buffers and lets their reads fail. Calls to other programs return.

`Inv` is what holds of every reachable state. The coordinator's part of a run is a run of `FanOut`
(`Inv.fan`) and each detector's part keeps `Detect.Inv` (`Inv.detectors`), so what was shown of them
alone holds here.
-/

set_option autoImplicit false

namespace Main

/-! ## States -/

/-- The notifiers `main` may be wired with. -/
inductive Kind
  | dbus
  | script
  deriving DecidableEq

/-- Where the `Run` of a notifier is: in `ConnectSystemBus`, at its `select`, in `conn.Emit`, or
returned. -/
inductive Notifier
  | connecting
  | receiving
  | emitting (ev : CameraEvent)
  | returned (err : Option GoString)
  deriving DecidableEq

/-- `Run` is called. -/
def Kind.start : Kind → Notifier
  | .dbus => .connecting
  | .script => .receiving

/-- `Run` has received an event: a script runs in a goroutine of its own. -/
def Kind.onEvent (ev : CameraEvent) : Kind → Notifier
  | .dbus => .emitting ev
  | .script => .receiving

/-- The goroutine that closes `allEvents`: at `detectorWg.Wait()`, at its `close` or at its end. -/
inductive Closer
  | waiting
  | closing
  | finished
  deriving DecidableEq

/-- The coordinator's goroutine: in `coord.Run`, at the `close` of the notifier channel of the given
index, or at its end. -/
inductive Coordinator
  | running
  | closing (i : Nat)
  | finished
  deriving DecidableEq

structure State (d n : Nat) where
  /-- `coord.Run`, the context, `allEvents` and the notifier channels but for their closing. -/
  fan : FanOut.State n
  detectors : Fin d → Detect.State
  closer : Closer
  coordinator : Coordinator
  notifiers : Fin n → Notifier
  /-- How often `allEvents` was closed. -/
  eventsCloses : Nat
  /-- How often each notifier channel was closed. -/
  outCloses : Fin n → Nat

variable {d n : Nat}

/-- The goroutines are started. -/
def init (kinds : Fin n → Kind) : State d n where
  fan := FanOut.init 0 fun _ => 1
  detectors := fun _ => Detect.init
  closer := .waiting
  coordinator := .running
  notifiers := fun j => (kinds j).start
  eventsCloses := 0
  outCloses := fun _ => 0

/-! ## Steps -/

/-- Who takes a step. -/
inductive Actor (d n : Nat)
  | environment
  | detector (i : Fin d)
  | closer
  | coordinator
  | notifier (j : Fin n)
  deriving DecidableEq

namespace State

variable (s : State d n)

def cancel : State d n := { s with fan := { s.fan with ctxDone := true } }

def setDetector (i : Fin d) (t : Detect.State) : State d n :=
  { s with detectors := Function.update s.detectors i t }

def setNotifier (j : Fin n) (p : Notifier) : State d n :=
  { s with notifiers := Function.update s.notifiers j p }

/-- The coordinator receives an event on the unbuffered `allEvents`. -/
def receive (ev : CameraEvent) (query : Except Coord.GoError V4L2Capability) : State d n :=
  { s with fan := FanOut.State.handle { s.fan with offered := s.fan.offered ++ [ev] } ⟨ev, query⟩ }

def closeEvents : State d n :=
  { s with
    fan := { s.fan with events := s.fan.events.close }
    eventsCloses := s.eventsCloses + 1 }

def setPc (pc : FanOut.Pc) : State d n := { s with fan := { s.fan with pc := pc } }

def setOutput (j : Fin n) (o : FanOut.Output) : State d n :=
  { s with fan := { s.fan with outputs := Function.update s.fan.outputs j o } }

end State

inductive Step (kinds : Fin n → Kind) : Actor d n → State d n → State d n → Prop
  -- the environment
  | cancel {s : State d n} : Step kinds .environment s s.cancel
  | kernel {s : State d n} {i : Fin d} {t : Detect.State} :
      Detect.Step s.fan.ctxDone (s.detectors i) .kernel t →
      Step kinds .environment s (s.setDetector i t)
  -- the detectors
  | detector {s : State d n} {i : Fin d} {t : Detect.State} :
      Detect.Step s.fan.ctxDone (s.detectors i) .tau t →
      Step kinds (.detector i) s (s.setDetector i t)
  | pass {s : State d n} {i : Fin d} {t : Detect.State} {ev : CameraEvent}
      (query : Except Coord.GoError V4L2Capability) :
      Detect.Step s.fan.ctxDone (s.detectors i) (.send ev) t → s.fan.pc = .select →
      s.fan.events.Idle → Step kinds (.detector i) s ((s.setDetector i t).receive ev query)
  -- the goroutine that closes `allEvents`
  | detectorsDone {s : State d n} : s.closer = .waiting →
      (∀ i, ∃ err, (s.detectors i).outer = .returned err) →
      Step kinds .closer s { s with closer := .closing }
  | closeEvents {s : State d n} : s.closer = .closing →
      Step kinds .closer s { s.closeEvents with closer := .finished }
  -- `coord.Run`
  | recvDone {s : State d n} : s.fan.pc = .select → s.fan.ctxDone = true →
      Step kinds .coordinator s (s.setPc .returned)
  | recvClosed {s : State d n} {c : Chan CameraEvent} : s.fan.pc = .select →
      s.fan.events.recv = some (none, c) → Step kinds .coordinator s (s.setPc .returned)
  | send {s : State d n} {ev : CameraEvent} {j : Fin n} {c : Chan CameraEvent} :
      s.fan.pc = .broadcast ev j → (s.fan.outputs j).chan.send ev = some c →
      Step kinds .coordinator s ((s.setPc (.broadcast ev (j + 1))).setOutput j
        { s.fan.outputs j with
          chan := c, sent := (s.fan.outputs j).sent ++ [(ev, s.fan.emitted.length - 1)] })
  | giveUp {s : State d n} {ev : CameraEvent} {j : Fin n} : s.fan.pc = .broadcast ev j →
      s.fan.ctxDone = true → Step kinds .coordinator s (s.setPc .select)
  | finish {s : State d n} {ev : CameraEvent} : s.fan.pc = .broadcast ev n →
      Step kinds .coordinator s (s.setPc .select)
  -- the coordinator's goroutine after it
  | coordDone {s : State d n} : s.coordinator = .running → s.fan.pc = .returned →
      Step kinds .coordinator s { s with coordinator := .closing 0 }
  | closeOut {s : State d n} {j : Fin n} : s.coordinator = .closing j →
      Step kinds .coordinator s { s with
        coordinator := .closing (j + 1)
        outCloses := Function.update s.outCloses j (s.outCloses j + 1) }
  | closedAll {s : State d n} : s.coordinator = .closing n →
      Step kinds .coordinator s { s with coordinator := .finished }
  -- the notifiers
  | connect {s : State d n} {j : Fin n} : s.notifiers j = .connecting →
      Step kinds (.notifier j) s (s.setNotifier j .receiving)
  | connectFails {s : State d n} {j : Fin n} (err : GoString) : s.notifiers j = .connecting →
      Step kinds (.notifier j) s (s.setNotifier j (.returned (some err)))
  | notifierDone {s : State d n} {j : Fin n} : s.notifiers j = .receiving →
      s.fan.ctxDone = true → Step kinds (.notifier j) s (s.setNotifier j (.returned none))
  | consume {s : State d n} {j : Fin n} {ev : CameraEvent} {c : Chan CameraEvent} :
      s.notifiers j = .receiving → (s.fan.outputs j).chan.recv = some (some ev, c) →
      Step kinds (.notifier j) s ((s.setNotifier j ((kinds j).onEvent ev)).setOutput j
        { s.fan.outputs j with chan := c, consumed := (s.fan.outputs j).consumed ++ [ev] })
  | consumeClosed {s : State d n} {j : Fin n} : s.notifiers j = .receiving →
      (s.fan.outputs j).chan.buf = [] → 0 < s.outCloses j →
      Step kinds (.notifier j) s (s.setNotifier j (.returned none))
  | emitted {s : State d n} {j : Fin n} {ev : CameraEvent} : s.notifiers j = .emitting ev →
      Step kinds (.notifier j) s (s.setNotifier j .receiving)

/-- The states of the runs of the program with the given notifiers. -/
def Reachable (kinds : Fin n → Kind) (s : State d n) : Prop :=
  Relation.ReflTransGen (fun s s' => ∃ a, Step kinds a s s') (init kinds) s

/-! ## The parts of a run -/

/-- A step is a step of the coordinator and its channels, or none of theirs. -/
theorem Step.fan {kinds : Fin n → Kind} {a : Actor d n} {s s' : State d n} (h : Step kinds a s s')
    (hopen : s.closer = .closing → s.fan.events.closed = false) :
    s'.fan = s.fan ∨ FanOut.Step s.fan s'.fan := by
  cases h with
  | cancel => exact .inr .cancel
  | pass query _ hpc hidle => exact .inr (.recvHandoff _ query hpc hidle)
  | closeEvents hc => exact .inr (.closeEvents (hopen hc))
  | recvDone hpc hctx => exact .inr (.recvDone hpc hctx)
  | recvClosed hpc hrecv => exact .inr (.recvClosed hpc hrecv)
  | send hpc hsend => exact .inr (.send hpc (.buffer hsend))
  | giveUp hpc hctx => exact .inr (.giveUp hpc hctx)
  | finish hpc => exact .inr (.finish hpc)
  | consume _ hrecv => exact .inr (.consume (by simp [FanOut.Output.consume, hrecv]))
  | _ => exact .inl rfl

/-- A step cancels the context, is a step of one detector, or leaves context and detectors alone. -/
theorem Step.detectors {kinds : Fin n → Kind} {a : Actor d n} {s s' : State d n}
    (h : Step kinds a s s') :
    (s'.fan.ctxDone = true ∧ s'.detectors = s.detectors) ∨
    (s'.fan.ctxDone = s.fan.ctxDone ∧ ∃ i b t, Detect.Step s.fan.ctxDone (s.detectors i) b t ∧
      s'.detectors = Function.update s.detectors i t) ∨
    (s'.fan.ctxDone = s.fan.ctxDone ∧ s'.detectors = s.detectors) := by
  cases h with
  | cancel => exact .inl ⟨rfl, rfl⟩
  | kernel hd => exact .inr (.inl ⟨rfl, _, _, _, hd, rfl⟩)
  | detector hd => exact .inr (.inl ⟨rfl, _, _, _, hd, rfl⟩)
  | pass _ hd _ _ => exact .inr (.inl ⟨rfl, _, _, _, hd, rfl⟩)
  | _ => exact .inr (.inr ⟨rfl, rfl⟩)

/-! ## The invariants -/

/-- The `Run` of every detector has returned. -/
def DetectorsReturned (s : State d n) : Prop := ∀ i, ∃ err, (s.detectors i).outer = .returned err

/-- How `allEvents` stands to the goroutine that closes it. -/
def EventsClosed (s : State d n) : Prop :=
  match s.closer with
  | .waiting => s.fan.events.closed = false ∧ s.eventsCloses = 0
  | .closing => DetectorsReturned s ∧ s.fan.events.closed = false ∧ s.eventsCloses = 0
  | .finished => DetectorsReturned s ∧ s.fan.events.closed = true ∧ s.eventsCloses = 1

/-- How the notifier channels stand to the coordinator's goroutine, which closes them. -/
def OutsClosed (s : State d n) : Prop :=
  match s.coordinator with
  | .running => ∀ j, s.outCloses j = 0
  | .closing i => s.fan.pc = .returned ∧ i ≤ n ∧ ∀ j, s.outCloses j = if j.val < i then 1 else 0
  | .finished => s.fan.pc = .returned ∧ ∀ j, s.outCloses j = 1

/-- A notifier that has not connected to the bus, or has failed to, has not consumed anything; one
that returns without an error was cancelled or saw its channel closed. -/
def Consumes (kinds : Fin n → Kind) (s : State d n) (j : Fin n) : Prop :=
  match s.notifiers j with
  | .connecting => kinds j = .dbus ∧ (s.fan.outputs j).consumed = []
  | .returned (some _) => kinds j = .dbus ∧ (s.fan.outputs j).consumed = []
  | .returned none => s.fan.ctxDone = true ∨ 0 < s.outCloses j
  | _ => True

structure Inv (kinds : Fin n → Kind) (s : State d n) : Prop where
  fan : FanOut.Reachable 0 (fun _ => 1) s.fan
  detectors : ∀ i, Detect.Inv s.fan.ctxDone (s.detectors i)
  events : EventsClosed s
  outs : OutsClosed s
  notifiers : ∀ j, Consumes kinds s j

theorem init_inv (kinds : Fin n → Kind) : Inv kinds (init kinds : State d n) where
  fan := .refl
  detectors := fun _ => Detect.init_inv
  events := ⟨rfl, rfl⟩
  outs := fun _ => rfl
  notifiers := by
    intro j
    unfold Consumes init Kind.start
    cases hk : kinds j <;> simp [FanOut.init, hk]

/-! ## One step -/

section
variable {kinds : Fin n → Kind} {a : Actor d n} {s s' : State d n}

theorem Inv.events_open (hs : Inv kinds s) (hc : s.closer ≠ .finished) :
    s.fan.events.closed = false := by
  have hev := hs.events
  unfold EventsClosed at hev
  split at hev
  · exact hev.1
  · exact hev.2.1
  · rename_i h
    exact absurd h hc

theorem inv_fan (h : Step kinds a s s') (hs : Inv kinds s) :
    FanOut.Reachable 0 (fun _ => 1) s'.fan := by
  rcases h.fan fun hc => hs.events_open (by simp [hc]) with hf | hf
  · rw [hf]
    exact hs.fan
  · exact hs.fan.tail hf

theorem inv_detectors (h : Step kinds a s s') (hs : Inv kinds s) :
    ∀ i, Detect.Inv s'.fan.ctxDone (s'.detectors i) := by
  intro i
  rcases h.detectors with ⟨hc, hd⟩ | ⟨hc, k, b, t, hstep, hd⟩ | ⟨hc, hd⟩
  · rw [hc, hd]
    exact (hs.detectors i).cancel
  · rw [hc, hd]
    by_cases hi : i = k
    · subst hi
      simpa using hstep.inv (hs.detectors i)
    · rw [Function.update_of_ne hi]
      exact hs.detectors i
  · rw [hc, hd]
    exact hs.detectors i

/-- Detectors that have returned stay so. -/
theorem DetectorsReturned.step (h : Step kinds a s s') (hs : Inv kinds s)
    (hret : DetectorsReturned s) : DetectorsReturned s' := by
  intro i
  obtain ⟨err, ho⟩ := hret i
  rcases h.detectors with ⟨-, hd⟩ | ⟨-, k, b, t, hstep, hd⟩ | ⟨-, hd⟩
  · exact ⟨err, by rw [hd]; exact ho⟩
  · refine ⟨err, ?_⟩
    rw [hd]
    by_cases hi : i = k
    · subst hi
      simpa using (hstep.of_returned (hs.detectors i) ho).1
    · rw [Function.update_of_ne hi]
      exact ho
  · exact ⟨err, by rw [hd]; exact ho⟩

/-- Only its goroutine closes `allEvents`. -/
theorem EventsClosed.congr (hs : EventsClosed s)
    (hret : DetectorsReturned s → DetectorsReturned s') (hc : s'.closer = s.closer)
    (hclosed : s'.fan.events.closed = s.fan.events.closed)
    (hcount : s'.eventsCloses = s.eventsCloses) : EventsClosed s' := by
  unfold EventsClosed at *
  rw [hc, hclosed, hcount]
  split at hs
  · exact hs
  · exact hs.imp hret id
  · exact hs.imp hret id

theorem inv_events (h : Step kinds a s s') (hs : Inv kinds s) : EventsClosed s' := by
  have hret := DetectorsReturned.step h hs
  have hev := hs.events
  cases h with
  | detectorsDone hc hall =>
    unfold EventsClosed at hev
    rw [hc] at hev
    exact ⟨hall, hev⟩
  | closeEvents hc =>
    unfold EventsClosed at hev
    rw [hc] at hev
    exact ⟨hev.1, rfl, congrArg (· + 1) hev.2.2⟩
  | _ => exact hev.congr hret rfl rfl rfl

/-- Once `coord.Run` has returned it takes no step. -/
theorem OutsClosed.congr (hs : OutsClosed s) (hc : s'.coordinator = s.coordinator)
    (hpc : s.fan.pc = .returned → s'.fan.pc = .returned) (hcount : s'.outCloses = s.outCloses) :
    OutsClosed s' := by
  unfold OutsClosed at *
  rw [hc, hcount]
  split at hs
  · exact hs
  · exact hs.imp hpc id
  · exact hs.imp hpc id

theorem inv_outs (h : Step kinds a s s') (hs : Inv kinds s) : OutsClosed s' := by
  have hout := hs.outs
  cases h with
  | pass _ _ hpc _ | recvDone hpc _ | recvClosed hpc _ | send hpc _ | giveUp hpc _ | finish hpc =>
    exact hout.congr rfl (fun h => by rw [hpc] at h; cases h) rfl
  | coordDone hc hpc =>
    unfold OutsClosed at hout
    rw [hc] at hout
    exact ⟨hpc, Nat.zero_le n, fun j => by simpa using hout j⟩
  | @closeOut _ j hc =>
    unfold OutsClosed at hout
    rw [hc] at hout
    obtain ⟨hpc, -, hcount⟩ := hout
    refine ⟨hpc, j.isLt, fun i => ?_⟩
    by_cases hi : i = j
    · subst hi
      simp [hcount i]
    · have hne : i.val ≠ j.val := fun h => hi (Fin.ext h)
      simp only [Function.update_of_ne hi, hcount i]
      congr 1
      rw [eq_iff_iff]
      omega
  | closedAll hc =>
    unfold OutsClosed at hout
    rw [hc] at hout
    exact ⟨hout.1, fun j => by simpa using hout.2.2 j⟩
  | _ => exact hout.congr rfl id rfl

theorem Consumes.congr {j : Fin n} (hs : Consumes kinds s j) (hp : s'.notifiers j = s.notifiers j)
    (hout : (s'.fan.outputs j).consumed = (s.fan.outputs j).consumed)
    (hctx : s.fan.ctxDone = true → s'.fan.ctxDone = true)
    (hcount : s.outCloses j ≤ s'.outCloses j) : Consumes kinds s' j := by
  unfold Consumes at *
  rw [hp, hout]
  split at hs
  · exact hs
  · exact hs
  · exact hs.imp hctx fun h => Nat.lt_of_lt_of_le h hcount
  · trivial

/-- A step of the notifier `i`. -/
theorem consumes_setNotifier {i : Fin n} {p : Notifier} (hs : ∀ j, Consumes kinds s j)
    (hi : Consumes kinds (s.setNotifier i p) i) (j : Fin n) :
    Consumes kinds (s.setNotifier i p) j := by
  by_cases hj : j = i
  · subst hj
    exact hi
  · exact (hs j).congr (Function.update_of_ne hj _ _) rfl id (Nat.le_refl _)

theorem inv_notifiers (h : Step kinds a s s') (hs : Inv kinds s) : ∀ j, Consumes kinds s' j := by
  intro j
  have hnot := hs.notifiers
  cases h with
  | cancel => exact (hnot j).congr rfl rfl (fun _ => rfl) (Nat.le_refl _)
  | @send _ ev i c hpc hsend =>
    refine (hnot j).congr rfl ?_ id (Nat.le_refl _)
    by_cases hj : j = i
    · subst hj
      simp [State.setOutput]
    · simp [State.setOutput, State.setPc, hj]
  | @closeOut _ i hc =>
    refine (hnot j).congr rfl rfl id ?_
    by_cases hj : j = i
    · subst hj
      simp
    · simp [hj]
  | @connect _ i hp =>
    refine consumes_setNotifier hnot ?_ j
    simp [Consumes, State.setNotifier]
  | @connectFails _ i err hp =>
    have hi := hnot i
    unfold Consumes at hi
    rw [hp] at hi
    refine consumes_setNotifier hnot ?_ j
    simpa [Consumes, State.setNotifier] using hi
  | @notifierDone _ i hp hctx =>
    refine consumes_setNotifier hnot ?_ j
    simp [Consumes, State.setNotifier, hctx]
  | @consumeClosed _ i hp _ hcount =>
    refine consumes_setNotifier hnot ?_ j
    simp [Consumes, State.setNotifier, hcount]
  | @emitted _ i ev hp =>
    refine consumes_setNotifier hnot ?_ j
    simp [Consumes, State.setNotifier]
  | @consume _ i ev c hp hrecv =>
    by_cases hj : j = i
    · subst hj
      cases hk : kinds j <;> simp [Consumes, State.setNotifier, State.setOutput, Kind.onEvent]
    · refine (hnot j).congr ?_ ?_ id (Nat.le_refl _)
      · simp [State.setNotifier, State.setOutput, hj]
      · simp [State.setNotifier, State.setOutput, hj]
  | _ => exact (hnot j).congr rfl rfl id (Nat.le_refl _)

/-- **Every step keeps the invariants.** -/
theorem Step.inv (h : Step kinds a s s') (hs : Inv kinds s) : Inv kinds s' :=
  ⟨inv_fan h hs, inv_detectors h hs, inv_events h hs, inv_outs h hs, inv_notifiers h hs⟩

end

/-- **Every reachable state meets the invariants.** -/
theorem reachable_inv {kinds : Fin n → Kind} {s : State d n} (h : Reachable kinds s) :
    Inv kinds s :=
  h.invariant_labelled (init_inv kinds) Step.inv

end Main
