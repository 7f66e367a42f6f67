import CameraCoordinator.Autolight.Mirror
import CameraCoordinator.Main.Delivery
import CameraCoordinator.Pipeline.Records

/-!
# From the kernel to the tray

The programs of the repository next to each other: the probes in the kernel with their ring buffer,
the daemon (`Main`, with its one detector and the D-Bus notifier first), the system bus, and the
tray application with the loop of its `Run`. The steps of the parts are theirs; what is said here is
what connects them. The records that the detector reads are those that the probes have submitted, an
emission is a signal on the bus if `conn.Emit` succeeds, and the application receives the signals of
the bus among signals of others that it rejects. It is assumed of the bus that it keeps the order of
the signals and loses none.

Everything may fail as it may in the parts. `Inv` says how the parts stand to each other in every
reachable state.
-/

set_option autoImplicit false

namespace EndToEnd

open Dbus (Signal Store)
open Detect (KillResult)

/-! ## States -/

/-- A record that was read, and the answer to the `unix.Kill` its handling may have called. -/
abbrev Handled := Bpf.CameraEvent × KillResult

/-- As the detector gets it. -/
def record (h : Handled) : Detect.Record := ⟨h.1.bytes, h.2⟩

structure State (n : Nat) where
  /-- The firings of the probes. -/
  firings : List Bpf.Firing
  /-- The records that are in the ring buffer. -/
  ring : List Bpf.CameraEvent
  /-- The records that were read. -/
  handled : List Handled
  daemon : Main.State 1 (n + 1)
  /-- The events of which a signal was to be emitted, and whether `conn.Emit` has succeeded. -/
  emits : List (CameraEvent × Bool)
  /-- The signals on their way to the application. -/
  bus : List Signal
  /-- The application's `sigCh`. -/
  sigCh : Chan Signal
  ui : Autolight.Ui
  /-- The application's context is cancelled. -/
  quit : Bool
  /-- Its `Run` has returned. -/
  returned : Bool

variable {n : Nat}

/-- The probes are loaded, the daemon is started and the application listens. -/
def init : State n where
  firings := []
  ring := []
  handled := []
  daemon := Main.init Main.mainKinds
  emits := []
  bus := []
  sigCh := .make 16
  ui := .init
  quit := false
  returned := false

/-! ## Steps -/

/-- The one detector of `main`. -/
def State.detector (s : State n) : Detect.State := s.daemon.detectors (Fin.last 0)

/-- The D-Bus notifier. -/
def State.notifier (s : State n) : Main.Notifier := s.daemon.notifiers 0

def State.setDaemon (s : State n) (d : Main.State 1 (n + 1)) : State n := { s with daemon := d }

/-- Who takes a step: one of the programs, or what is around them. A failure counts as the latter.
-/
inductive Actor
  | environment
  | programs
  deriving DecidableEq

inductive Step (store : Store) : Actor → State n → State n → Prop
  -- the kernel
  | fire {s : State n} (f : Bpf.Firing) : Step store .environment s { s with
      firings := s.firings ++ [f]
      ring := s.ring ++ Bpf.submits s.firings f }
  -- the daemon
  | cancel {s : State n} : Step store .environment s (s.setDaemon s.daemon.cancel)
  | read {s : State n} {e : Bpf.CameraEvent} {rest : List Bpf.CameraEvent} (kill : KillResult) :
      s.ring = e :: rest → s.detector.reader = .readInto → s.detector.closed = false →
      Step store .programs s { s with
        ring := rest
        handled := s.handled ++ [(e, kill)]
        daemon := s.daemon.setDetector 0 (s.detector.handle (record (e, kill))) }
  | readFails {s : State n} (err : Detect.ReadError) : s.detector.reader = .readInto →
      s.detector.closed = false →
      Step store .environment s (s.setDaemon (s.daemon.setDetector 0
        { s.detector with reader := .reporting err.report, readErr := some err }))
  | own {s : State n} {a : Main.Actor 1 (n + 1)} {d : Main.State 1 (n + 1)} : a ≠ .environment →
      Main.Step Main.mainKinds a s.daemon d →
      -- how `conn.Emit` returns is said below
      (∀ ev, s.notifier = .emitting ev → a ≠ .notifier 0) →
      Step store .programs s (s.setDaemon d)
  | emit {s : State n} {ev : CameraEvent} : s.notifier = .emitting ev →
      Step store .programs s { s with
        daemon := s.daemon.setNotifier 0 .receiving
        emits := s.emits ++ [(ev, true)]
        bus := s.bus ++ [Dbus.emit ev] }
  | emitFails {s : State n} {ev : CameraEvent} : s.notifier = .emitting ev →
      Step store .environment s { s with
        daemon := s.daemon.setNotifier 0 .receiving
        emits := s.emits ++ [(ev, false)] }
  -- the bus
  | foreign {s : State n} {sig : Signal} : Autolight.Rejected store sig →
      Step store .environment s { s with bus := s.bus ++ [sig] }
  | deliver {s : State n} {sig : Signal} {rest : List Signal} {c : Chan Signal} :
      s.bus = sig :: rest → s.sigCh.send sig = some c →
      Step store .programs s { s with bus := rest, sigCh := c }
  -- the application
  | receive {s : State n} {sig : Signal} {c : Chan Signal} : s.returned = false →
      s.ui.thread = none → s.sigCh.recv = some (some sig, c) → Step store .programs s { s with
        sigCh := c
        ui := { s.ui with
          app := (Autolight.receiveSignal store sig s.ui.app).1
          thread := (Autolight.receiveSignal store sig s.ui.app).2
          received := s.ui.received ++ [sig] } }
  | critical {s : State n} {c : Autolight.Critical} (devices : List Autolight.Device) :
      s.ui.thread = some c → Step store .programs s { s with
        ui := { s.ui with
          app := (c.run devices s.ui.app).1
          thread := none
          commands := s.ui.commands ++ (c.run devices s.ui.app).2 } }
  | click {s : State n} {c : Autolight.Click} (devices : List Autolight.Device) :
      c ∈ Autolight.menu → Step store .environment s { s with
        ui := { s.ui with
          app := (c.run devices s.ui.app).1
          commands := s.ui.commands ++ (c.run devices s.ui.app).2 } }
  | quit {s : State n} : Step store .environment s { s with quit := true }
  | done {s : State n} : s.returned = false → s.ui.thread = none → s.quit = true →
      Step store .programs s { s with returned := true }

/-- The states of the runs. -/
def Reachable (store : Store) (s : State n) : Prop :=
  Relation.ReflTransGen (fun s s' => ∃ a, Step store a s s') init s

/-- The daemon starts: its detector gets to its read loop, and the D-Bus notifier is connected. -/
theorem run_ready {store : Store} {s : State n} (hsetup : s.detector.outer = .setup .loadObjects)
    (hconnect : s.notifier = .connecting) :
    Relation.ReflTransGen (fun s s' => ∃ a, Step store a s s') s (s.setDaemon
      ((s.daemon.setDetector 0 { s.detector with
        outer := .select
        reader := .readInto }).setNotifier 0 .receiving)) := by
  have h0 : Relation.ReflTransGen (fun s s' => ∃ a, Step store a s s') s s := .refl
  have h1 := h0.tail ⟨_, .own (a := .detector 0) (by simp) (.detector (.setup hsetup rfl))
    (by simp)⟩
  have h2 := h1.tail ⟨_, .own (a := .detector 0) (by simp) (.detector (.setup rfl rfl)) (by simp)⟩
  have h3 := h2.tail ⟨_, .own (a := .detector 0) (by simp) (.detector (.setup rfl rfl)) (by simp)⟩
  have h4 := h3.tail ⟨_, .own (a := .detector 0) (by simp) (.detector (.setup rfl rfl)) (by simp)⟩
  have h5 := h4.tail ⟨_, .own (a := .detector 0) (by simp) (.detector (.start rfl rfl)) (by simp)⟩
  have h6 := h5.tail ⟨_, .own (a := .notifier 0) (by simp) (.connect hconnect) fun ev h => by
    cases hconnect.symm.trans h⟩
  simp only [State.setDaemon, Main.State.setDetector, Function.update_idem] at h6
  exact h6

/-! ## The parts of a run -/

section
variable {store : Store} {b : Actor} {s s' : State n}

/-- The daemon takes one of its steps, or none. -/
theorem Step.daemon (h : Step store b s s') : s'.daemon = s.daemon ∨
    ∃ a, Main.Step Main.mainKinds a s.daemon s'.daemon := by
  cases h with
  | cancel => exact .inr ⟨_, .cancel⟩
  | read kill _ hr hc => exact .inr ⟨_, .kernel (.readRecord _ hr hc)⟩
  | readFails err hr hc => exact .inr ⟨_, .kernel (.readFails err hr hc)⟩
  | own _ hstep _ => exact .inr ⟨_, hstep⟩
  | emit hev | emitFails hev => exact .inr ⟨_, .emitted hev⟩
  | _ => exact .inl rfl

/-- The application takes one of its steps, or none. -/
theorem Step.ui (h : Step store b s s') : s'.ui = s.ui ∨
    ∃ a, Autolight.Ui.Step store a s.ui s'.ui := by
  cases h with
  | receive _ hidle _ => exact .inr ⟨_, .receive _ hidle⟩
  | critical devices hc => exact .inr ⟨_, .critical devices hc⟩
  | click devices hc => exact .inr ⟨_, .click devices hc⟩
  | _ => exact .inl rfl

theorem reachable_daemon (h : Reachable store s) : Main.Reachable Main.mainKinds s.daemon := by
  have h0 : Main.Reachable Main.mainKinds (init : State n).daemon := .refl
  refine h.invariant_labelled (P := fun s => Main.Reachable Main.mainKinds s.daemon) h0
    fun hstep hs => ?_
  rcases hstep.daemon with heq | hd
  · rw [heq]
    exact hs
  · exact hs.tail hd

theorem reachable_ui (h : Reachable store s) : Autolight.Ui.Reachable store s.ui := by
  have h0 : Autolight.Ui.Reachable store (init : State n).ui := .refl
  refine h.invariant_labelled (P := fun s => Autolight.Ui.Reachable store s.ui) h0
    fun hstep hs => ?_
  rcases hstep.ui with heq | hui
  · rw [heq]
    exact hs
  · exact hs.tail hui

end

/-! ## What connects the parts -/

/-- The event the D-Bus notifier is emitting. -/
def pending : Main.Notifier → List CameraEvent
  | .emitting ev => [ev]
  | _ => []

/-- The events of which a signal was emitted. -/
def signalled (emits : List (CameraEvent × Bool)) : List CameraEvent :=
  (emits.filter Prod.snd).map Prod.fst

theorem signalled_snoc (emits : List (CameraEvent × Bool)) (p : CameraEvent × Bool) :
    signalled (emits ++ [p]) = signalled emits ++ if p.2 then [p.1] else [] := by
  cases hp : p.2 <;> simp [signalled, List.filter_append, hp]

/-- What the daemon has consumed at its D-Bus notifier. -/
def State.consumed (s : State n) : List CameraEvent := (s.daemon.fan.outputs 0).consumed

/-- The events consumed are handed to `conn.Emit`, in order. -/
def Signals (s : State n) : Prop := s.consumed = s.emits.map Prod.fst ++ pending s.notifier

structure Inv (store : Store) (s : State n) : Prop where
  submitted : Bpf.submitted s.firings = s.handled.map Prod.fst ++ s.ring
  read : s.detector.read = s.handled.map record
  signals : Signals s
  bus : Autolight.Mixed store (signalled s.emits) (s.ui.received ++ s.sigCh.buf ++ s.bus)
  sigCh : s.sigCh.cap = 16 ∧ s.sigCh.closed = false

theorem init_inv (store : Store) : Inv store (init : State n) where
  submitted := rfl
  read := rfl
  signals := rfl
  bus := .nil
  sigCh := ⟨rfl, rfl⟩

section
variable {store : Store} {s s' : State n} {a : Main.Actor 1 (n + 1)} {d : Main.State 1 (n + 1)}

/-- A step of the daemon by itself reads no record. -/
theorem read_of_own (h : Main.Step Main.mainKinds a s.daemon d) (ha : a ≠ .environment) :
    (d.detectors 0).read = s.detector.read := by
  have hread : ∀ {ctxDone t t' b}, Detect.Step ctxDone t b t' → b ≠ .kernel → t'.read = t.read := by
    intro ctxDone t t' b hstep hb
    cases hstep with
    | readRecord | readFails => exact absurd rfl hb
    | _ => rfl
  cases h with
  | cancel | kernel => exact absurd rfl ha
  | @detector _ i t ht =>
    obtain rfl : i = 0 := Subsingleton.elim i 0
    simpa [Main.State.setDetector, State.detector] using hread ht (by simp)
  | @pass _ i t ev query ht _ _ =>
    obtain rfl : i = 0 := Subsingleton.elim i 0
    simpa [Main.State.setDetector, Main.State.receive, State.detector] using hread ht (by simp)
  | _ => rfl

/-- The D-Bus notifier consumes an event to emit it. -/
theorem consumed_of_own (h : Main.Step Main.mainKinds a s.daemon d)
    (hemit : ∀ ev, s.notifier = .emitting ev → a ≠ .notifier 0) :
    (pending (d.notifiers 0) = pending s.notifier ∧
      (d.fan.outputs 0).consumed = s.consumed) ∨
    ∃ ev, pending s.notifier = [] ∧ pending (d.notifiers 0) = [ev] ∧
      (d.fan.outputs 0).consumed = s.consumed ++ [ev] := by
  have hset : ∀ {j : Fin (n + 1)} {p : Main.Notifier}, pending (s.daemon.notifiers j) = [] →
      pending p = [] → pending ((s.daemon.setNotifier j p).notifiers 0) = pending s.notifier := by
    intro j p hold hnew
    by_cases hj : j = 0
    · subst hj
      simpa [Main.State.setNotifier, State.notifier, hnew] using hold.symm
    · simp [Main.State.setNotifier, State.notifier, Ne.symm hj]
  cases h with
  | connect hp | connectFails _ hp | notifierDone hp _ | consumeClosed hp _ _ =>
    exact .inl ⟨hset (by rw [hp]; rfl) rfl, rfl⟩
  | @emitted _ j ev hp =>
    have hj : j ≠ 0 := by
      rintro rfl
      exact hemit ev hp rfl
    exact .inl ⟨by simp [Main.State.setNotifier, State.notifier, Ne.symm hj], rfl⟩
  | @consume _ j ev c hp hrecv =>
    by_cases hj : j = 0
    · subst hj
      refine .inr ⟨ev, by rw [State.notifier, hp]; rfl, ?_, ?_⟩
      · simp [Main.State.setNotifier, Main.State.setOutput, Main.mainKinds, Main.Kind.onEvent,
          pending]
      · simp [Main.State.setOutput, Main.State.setNotifier, State.consumed]
    · refine .inl ⟨?_, ?_⟩
      · simp [Main.State.setNotifier, Main.State.setOutput, State.notifier, Ne.symm hj]
      · simp [Main.State.setNotifier, Main.State.setOutput, State.consumed, Ne.symm hj]
  | @send _ ev j c _ _ =>
    refine .inl ⟨rfl, ?_⟩
    by_cases hj : j = 0
    · subst hj
      simp [Main.State.setOutput, State.consumed]
    · simp [Main.State.setOutput, Main.State.setPc, State.consumed, Ne.symm hj]
  | _ => exact .inl ⟨rfl, rfl⟩

theorem signals_own (hs : Signals s) (h : Main.Step Main.mainKinds a s.daemon d)
    (hemit : ∀ ev, s.notifier = .emitting ev → a ≠ .notifier 0) : Signals (s.setDaemon d) := by
  show (d.fan.outputs 0).consumed = s.emits.map Prod.fst ++ pending (d.notifiers 0)
  unfold Signals at hs
  rcases consumed_of_own h hemit with ⟨hp, hc⟩ | ⟨ev, hnone, hp, hc⟩
  · rw [hc, hp, hs]
  · rw [hc, hp, hs, hnone, List.append_nil]

/-- The event being emitted is the next one. -/
theorem signals_emit (hs : Signals s) {ev : CameraEvent} (hev : s.notifier = .emitting ev)
    (ok : Bool) : s.consumed = (s.emits ++ [(ev, ok)]).map Prod.fst := by
  unfold Signals at hs
  rw [hs, hev, List.map_append]
  rfl

/-- It is about the notifiers of the daemon and what they consumed. -/
theorem Signals.congr (hs : Signals s) (hnot : s'.daemon.notifiers = s.daemon.notifiers)
    (hout : s'.daemon.fan.outputs = s.daemon.fan.outputs) (hem : s'.emits = s.emits) :
    Signals s' := by
  unfold Signals State.consumed State.notifier at *
  rw [hnot, hout, hem]
  exact hs

/-- **Every step keeps the parts connected.** -/
theorem Step.inv {b : Actor} (h : Step store b s s') (hs : Inv store s) : Inv store s' := by
  have ⟨hsub, hread, hsig, hbus, hch⟩ := hs
  cases h with
  | fire f =>
    refine ⟨?_, hread, hsig, hbus, hch⟩
    rw [Bpf.submitted_snoc, hsub, List.append_assoc]
  | cancel => exact ⟨hsub, hread, hsig.congr rfl rfl rfl, hbus, hch⟩
  | @read _ e rest kill hring hr _ =>
    refine ⟨?_, ?_, hsig.congr rfl rfl rfl, hbus, hch⟩
    · rw [hsub, hring]
      simp
    · simp [State.detector, Main.State.setDetector, Detect.State.handle, ← hread]
  | readFails err _ _ =>
    refine ⟨hsub, ?_, hsig.congr rfl rfl rfl, hbus, hch⟩
    simpa [State.detector, State.setDaemon, Main.State.setDetector] using hread
  | own ha hstep hemit =>
    exact ⟨hsub, (read_of_own hstep ha).trans hread, signals_own hsig hstep hemit, hbus, hch⟩
  | @emit _ ev hev =>
    have hcons := signals_emit hsig hev true
    refine ⟨hsub, hread, ?_, ?_, hch⟩
    · simpa [Signals, State.consumed, Main.State.setNotifier, State.notifier, pending] using hcons
    · rw [← List.append_assoc]
      simpa [signalled, List.filter_append] using Autolight.Mixed.emitted ev hbus
  | @emitFails _ ev hev =>
    have hcons := signals_emit hsig hev false
    refine ⟨hsub, hread, ?_, ?_, hch⟩
    · simpa [Signals, State.consumed, Main.State.setNotifier, State.notifier, pending] using hcons
    · simpa [signalled, List.filter_append] using hbus
  | foreign hrej =>
    refine ⟨hsub, hread, hsig, ?_, hch⟩
    rw [← List.append_assoc]
    exact .foreign hrej hbus
  | @deliver _ sig rest c hb hsend =>
    refine ⟨hsub, hread, hsig, ?_, ?_⟩
    · rw [hb] at hbus
      rw [Chan.buf_of_send hsend]
      simpa using hbus
    · exact ⟨(Chan.cap_of_send hsend).trans hch.1, (Chan.closed_of_send hsend).2⟩
  | @receive _ sig c _ _ hrecv =>
    obtain ⟨hbuf, hclosed⟩ := Chan.recv_some hrecv
    refine ⟨hsub, hread, hsig, ?_, (Chan.cap_of_recv hrecv).trans hch.1, hclosed.trans hch.2⟩
    rw [hbuf] at hbus
    simpa using hbus
  | _ => exact ⟨hsub, hread, hsig, hbus, hch⟩

end

/-- **In every reachable state the parts are connected.** -/
theorem reachable_inv {store : Store} {s : State n} (h : Reachable store s) : Inv store s :=
  h.invariant_labelled (init_inv store) Step.inv

end EndToEnd
