import CameraCoordinator.EndToEnd.Settled
import CameraCoordinator.Main.Progress

/-!
# The news arrive

The programs do by themselves what gets a record from the ring buffer to the tray, and it ends
(`Step.work_lt`): a step of theirs lowers `State.work`, in which a record counts for all that it may
lead to. Where they have no step left nothing is under way (`quiet_of_stuck`), so that what the tray
shows is right. `news_arrive` puts this together.
-/

set_option autoImplicit false

namespace EndToEnd

open Dbus (Store)

variable {n : Nat} {store : Store} {s s' : State n}

/-- The programs fire no probe. -/
theorem Step.firings_eq (h : Step store .programs s s') : s'.firings = s.firings := by
  cases h <;> rfl

/-! ## Work -/

/-- What one record, or one step of the environment, may lead to. -/
def perRecord (n : Nat) : Nat := 12 * (n + 1) + 9

def threadWork : Option Autolight.Critical → Nat
  | none => 0
  | some _ => 1

def runWork (returned : Bool) : Nat := if returned then 0 else 1

/-- A bound on the steps that the programs take by themselves. -/
def State.work (s : State n) : Nat :=
  4 * s.daemon.work + perRecord n * s.ring.length + 3 * s.bus.length + 2 * s.sigCh.buf.length +
    threadWork s.ui.thread + runWork s.returned

theorem threadWork_le (c : Option Autolight.Critical) : threadWork c ≤ 1 := by
  cases c <;> simp [threadWork]

/-- **Every step of the programs lowers the work.** -/
theorem Step.work_lt (h : Step store .programs s s') : s'.work < s.work := by
  cases h with
  | @read _ e rest kill hring hr hc =>
    have hstep : Main.Step Main.mainKinds .environment s.daemon
        (s.daemon.setDetector 0 (s.detector.handle (record (e, kill)))) :=
      .kernel (.readRecord (record (e, kill)) hr hc)
    have hle := hstep.work_le
    simp only [State.work, hring, List.length_cons, Nat.mul_succ, perRecord]
    omega
  | own ha hstep _ =>
    have hlt := hstep.work_lt ha
    simp only [State.work, State.setDaemon]
    omega
  | @emit _ ev hev =>
    have hstep : Main.Step Main.mainKinds (.notifier _) s.daemon _ := .emitted hev
    have hlt := hstep.work_lt (by simp)
    simp only [State.work, List.length_append, List.length_singleton]
    omega
  | @deliver _ sig rest c hb hsend =>
    have hbuf := congrArg List.length (Chan.buf_of_send hsend)
    rw [List.length_append, List.length_singleton] at hbuf
    simp only [State.work, hb, List.length_cons]
    omega
  | @receive _ sig c _ hidle hrecv =>
    have hbuf := congrArg List.length (Chan.recv_some hrecv).1
    have hle := threadWork_le (Autolight.receiveSignal store sig s.ui.app).2
    have hzero : threadWork s.ui.thread = 0 := by rw [hidle, threadWork]
    rw [List.length_cons] at hbuf
    simp only [State.work]
    omega
  | critical devices hc =>
    simp only [State.work, hc, threadWork]
    omega
  | done hret _ _ =>
    simp only [State.work, hret, runWork]
    simp

/-- The environment raises it by no more than what a record may lead to. -/
theorem Step.work_le (h : Step store .environment s s') : s'.work ≤ s.work + perRecord n := by
  cases h with
  | fire f =>
    have hle := Bpf.length_step_le (Bpf.streamingPid s.firings) f
    have hmul := Nat.mul_le_mul_left (perRecord n) hle
    simp only [State.work, Bpf.submits, List.length_append, Nat.mul_add]
    omega
  | cancel =>
    have hstep : Main.Step Main.mainKinds .environment s.daemon _ := .cancel
    have hle := hstep.work_le
    simp only [State.work, State.setDaemon, perRecord]
    omega
  | readFails err hr hc =>
    have hstep : Main.Step Main.mainKinds .environment s.daemon (s.daemon.setDetector 0
        { s.detector with reader := .reporting err.report, readErr := some err }) :=
      .kernel (.readFails err hr hc)
    have hle := hstep.work_le
    simp only [State.work, State.setDaemon, perRecord] at hle ⊢
    omega
  | @emitFails _ ev hev =>
    have hstep : Main.Step Main.mainKinds (.notifier _) s.daemon _ := .emitted hev
    have hlt := hstep.work_lt (by simp)
    simp only [State.work]
    omega
  | foreign _ =>
    simp only [State.work, List.length_append, List.length_singleton, perRecord]
    omega
  | click | quit => exact Nat.le_add_right _ _

/-! ## Where it ends -/

/-- Daemon and application are running: neither is cancelled, the detector has not returned, the bus
is there. -/
structure Running (s : State n) : Prop where
  ctxDone : s.daemon.fan.ctxDone = false
  detector : ∀ err, s.detector.outer ≠ .returned err
  connected : Connected s
  returned : s.returned = false

/-- Where the programs have no step left and are running, nothing is under way. -/
theorem quiet_of_stuck (hs : Reachable store s) (hrun : Running s)
    (hstuck : ¬ ∃ s', Step store .programs s s') : Quiet s := by
  have hdaemon : ¬ Main.Moves Main.mainKinds s.daemon := by
    rintro ⟨a, d, ha, hstep⟩
    by_cases hev : ∃ ev, s.notifier = .emitting ev
    · obtain ⟨ev, hev⟩ := hev
      exact hstuck ⟨_, .emit hev⟩
    · exact hstuck ⟨_, .own ha hstep fun ev h => absurd ⟨ev, h⟩ hev⟩
  have hthread : s.ui.thread = none := by
    cases hc : s.ui.thread with
    | none => rfl
    | some c => exact absurd ⟨_, .critical [] hc⟩ hstuck
  have hsigCh : s.sigCh.buf = [] := by
    by_contra hne
    obtain ⟨sig, c, hrecv⟩ := Chan.exists_recv hne
    exact hstuck ⟨_, .receive hrun.returned hthread hrecv⟩
  have hbus : s.bus = [] := by
    obtain ⟨hcap, hopen⟩ := (reachable_inv hs).sigCh
    cases hb : s.bus with
    | nil => rfl
    | cons sig rest =>
      obtain ⟨c, hsend⟩ := Chan.exists_send hopen (by simp [hsigCh, hcap]) sig
      exact absurd ⟨_, .deliver hb hsend⟩ hstuck
  have hring : s.ring = [] := by
    have hinv := Main.reachable_inv (reachable_daemon hs)
    have hlive := not_deadBlocked hs hrun.ctxDone hrun.connected
    have hreader := (Main.detector_waits hinv hrun.ctxDone hdaemon hlive hrun.detector).2
    have hopen : s.detector.closed = false := by
      cases hc : s.detector.closed with
      | false => rfl
      | true => exact absurd ⟨_, _, by simp, .detector (.readClosed hreader hc)⟩ hdaemon
    cases hr : s.ring with
    | nil => rfl
    | cons e rest => exact absurd ⟨_, .read .esrch hr hreader hopen⟩ hstuck
  exact ⟨hrun.ctxDone, hdaemon, hring, hbus, hsigCh, hthread⟩

/-- Where nothing is under way the programs have no step left, unless the application is to quit. -/
theorem Quiet.stuck (hq : Quiet s) (hquit : s.quit = false) :
    ¬ ∃ s', Step store .programs s s' := by
  rintro ⟨s', hstep⟩
  cases hstep with
  | read _ hring _ _ => simp [hq.ring] at hring
  | own ha hstep _ => exact hq.daemon ⟨_, _, ha, hstep⟩
  | emit hev => exact hq.daemon ⟨_, _, by simp, .emitted hev⟩
  | deliver hb _ => simp [hq.bus] at hb
  | receive _ _ hrecv =>
    have hbuf := hq.sigCh
    rw [(Chan.recv_some hrecv).1] at hbuf
    cases hbuf
  | critical _ hc => simp [hq.thread] at hc
  | done _ _ hdone => simp [hquit] at hdone

/-- **The news arrive.** In every run from a reachable state, the programs take at most as many
steps as there is work, and as many more for each step of the environment as a record may lead to;
and wherever in it they have none left and are running, if nothing has failed, all devices capture
and all releases are final, the application shows the devices with an entry in `streaming_pid`.
Without the environment they get to a state without a step, and the firings stay what they were. -/
theorem news_arrive (store : Store) (hstore : store.Faithful) (s : State n)
    (hs : Reachable store s) :
    (∀ as s', Relation.Trace (Step store) as s s' →
      as.countP (fun a => a ≠ .environment) ≤
        s.work + perRecord n * as.countP (fun a => a = .environment) ∧
      ((¬ ∃ t, Step store .programs s' t) → Running s' → Unfailed s' →
        ∀ v, v ∈ s'.ui.app.activeCameras ↔ ∃ k ∈ Bpf.streamingPid s'.firings, k.device = v)) ∧
    ∃ s', Relation.ReflTransGen (Step store .programs) s s' ∧ s'.firings = s.firings ∧
      ¬ ∃ t, Step store .programs s' t := by
  refine ⟨fun as s' htrace => ⟨?_, fun hstuck hrun hun v => ?_⟩, ?_⟩
  · refine Nat.le_of_add_right_le (htrace.count_le (p := fun a => a = .environment)
      (fun {a} _ _ h ha => ?_) fun h ha => (ha ▸ h).work_le)
    cases a with
    | environment => exact absurd rfl ha
    | programs => exact h.work_lt
  · have hs' : Reachable store s' := hs.trans htrace.run
    have hq := quiet_of_stuck hs' hrun hstuck
    exact mem_cameras_iff_entry hs' hq hstore hun v
  · obtain ⟨s', hrun, hstuck⟩ := Relation.ReflTransGen.exists_stuck (r := Step store .programs)
      (μ := State.work) Step.work_lt s
    refine ⟨s', hrun, ?_, fun ⟨t, ht⟩ => hstuck t ht⟩
    exact hrun.invariant (P := fun t => t.firings = s.firings) rfl fun hstep ht =>
      hstep.firings_eq.trans ht

/-- A streamon gets to the tray. -/
theorem news_of_streamon : ∃ as, ∃ s s' : State 0, Reachable Dbus.storeFields s ∧
    s.ui.received = [] ∧ Relation.Trace (Step Dbus.storeFields) as s s' ∧
    as.countP (fun a => a ≠ .environment) ≤
      s.work + perRecord 0 * as.countP (fun a => a = .environment) ∧
    (¬ ∃ t, Step Dbus.storeFields .programs s' t) ∧
    Bpf.video0.device ∈ s'.ui.app.activeCameras ∧
    ∃ t, Relation.ReflTransGen (Step Dbus.storeFields .programs) s t ∧ t.firings = s.firings ∧
      ¬ ∃ t', Step Dbus.storeFields .programs t t' := by
  obtain ⟨s, hs⟩ := told_of_fired [Bpf.onVideo0 .streamon 7]
  obtain ⟨as, htrace⟩ := (hs.run.tail ⟨_, .critical [] hs.thread⟩).exists_trace
  obtain ⟨hruns, hends⟩ := news_arrive _ Dbus.storeFields_faithful _ reachable_fired
  obtain ⟨hcount, hshows⟩ := hruns as _ htrace
  refine ⟨as, _, _, reachable_fired, rfl, htrace, hcount, ?_, ?_, hends⟩
  · exact Quiet.stuck (hs.quiet rfl) hs.listening.1
  · refine (hshows (Quiet.stuck (hs.quiet rfl) hs.listening.1)
      ⟨hs.waiting.ctxDone, fun err herr => ?_, hs.connected, hs.listening.2⟩
      (hs.unfailed (.of_length (by decide) (by decide))) _).2 ⟨Bpf.video0, ?_, rfl⟩
    · have hselect := (hs.waiting.detectors 0).1
      exact absurd (hselect.symm.trans herr) (by simp)
    · dsimp only
      rw [hs.firings]
      decide

end EndToEnd
