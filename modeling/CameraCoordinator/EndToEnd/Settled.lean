import CameraCoordinator.Bpf.Recovery
import CameraCoordinator.EndToEnd.System
import CameraCoordinator.Pipeline.Last

/-!
# The tray shows what the kernel does

In a state in which nothing is under way (`Quiet`), the tray application and `streaming_pid` agree.
`tray_agrees`: on all devices, if nothing has failed, all devices capture and all releases are
final. `tray_recovers`: on one device, whatever failed before on it or on others, if its last firing
that emits has succeeded and so has what its last record, event and signal led to.
-/

set_option autoImplicit false

namespace EndToEnd

open Dbus (Store)
open Coord (broadcasts typesOf)

variable {n : Nat}

/-! ## Nothing is under way -/

structure Quiet (s : State n) : Prop where
  ctxDone : s.daemon.fan.ctxDone = false
  daemon : ¬ ∃ a d, a ≠ .environment ∧ Main.Step Main.mainKinds a s.daemon d
  ring : s.ring = []
  bus : s.bus = []
  sigCh : s.sigCh.buf = []
  thread : s.ui.thread = none

/-- The D-Bus notifier has not failed to connect. -/
def Connected (s : State n) : Prop := ∀ err, s.notifier ≠ .returned (some err)

/-- What was last to be emitted about a device. -/
def lastEmit (v : GoString) (emits : List (CameraEvent × Bool)) : Option (CameraEvent × Bool) :=
  (emits.filter fun p => p.1.videoDevice == v).getLast?

/-- The last record about the device was sent, the last event about it accepted, and its last signal
emitted. -/
structure LastPassed (s : State n) (v : GoString) : Prop where
  record : ∀ h, Pipeline.lastRecord v s.handled = some h →
    (Detect.delivered (Pipeline.ofKernel h.1) h.2).isSome
  event : ∀ r, Coord.lastAbout v s.daemon.fan.received = some r → r.accepted = true
  signal : ∀ p, lastEmit v s.emits = some p → p.2 = true

/-- If the last signal about a device was emitted, it is about the last event. -/
theorem getLast_signalled {v : GoString} {emits : List (CameraEvent × Bool)}
    (h : ∀ p, lastEmit v emits = some p → p.2 = true) :
    (typesOf v (signalled emits)).getLast? = (typesOf v (emits.map Prod.fst)).getLast? := by
  induction emits using List.reverseRecOn with
  | nil => rfl
  | append_singleton emits p ih =>
    rw [signalled_snoc, List.map_append, Coord.typesOf_append, Coord.typesOf_append,
      List.map_singleton]
    by_cases hv : p.1.videoDevice = v
    · have hp := h p (by simp [lastEmit, List.filter_append, hv])
      simp [hp, typesOf, hv]
    · have hnone : typesOf v (if p.2 then [p.1] else []) = [] := by
        split <;> simp [typesOf, hv]
      have hnone' : typesOf v [p.1] = [] := by simp [typesOf, hv]
      rw [hnone, hnone', List.append_nil, List.append_nil]
      refine ih fun q hq => h q ?_
      simpa [lastEmit, List.filter_append, hv] using hq

/-- The label says whether the tray shows a device. -/
theorem label_iff {store : Store} {s : State n} (hs : Reachable store s) (hq : Quiet s) :
    s.ui.app.cameraStatusItem = Autolight.cameraStatusOnLabel ↔
      ∃ v, v ∈ s.ui.app.activeCameras := by
  have hui := Autolight.Ui.reachable_inv (reachable_ui hs)
  rw [(hui.cameraLabel hq.thread).on_iff, GoMap.ne_empty_iff]

/-- Only the D-Bus notifier can be dead. -/
theorem not_deadBlocked {store : Store} {s : State n} (hs : Reachable store s)
    (hctx : s.daemon.fan.ctxDone = false) (hc : Connected s) : ¬ Main.DeadBlocked s.daemon := by
  have hinv := Main.reachable_inv (reachable_daemon hs)
  rintro ⟨ev, j, hpc, -, err, hj⟩
  obtain ⟨e, rfl⟩ := hinv.failed_of_returned hctx hpc hj
  have hkind := (hinv.buf_of_failed hj).1
  have hj0 : j = 0 := by
    by_contra hne
    simp [Main.mainKinds, Fin.val_ne_zero_iff.2 hne] at hkind
  subst hj0
  exact hc e hj

section
variable {store : Store} {s : State n} (hs : Reachable store s)

section
variable (hctx : s.daemon.fan.ctxDone = false) (hstuck : ¬ Main.Moves Main.mainKinds s.daemon)
  (hc : Connected s)
include hs hctx hstuck hc

/-- All records have become events that the coordinator has received. -/
theorem received_of_stuck : s.daemon.fan.received.map (·.ev) = Pipeline.sentFor s.handled := by
  have hinv := Main.reachable_inv (reachable_daemon hs)
  have hlive := not_deadBlocked hs hctx hc
  have hrec := (Main.reachable_receives (reachable_daemon hs)).eq_default
  have hsent := Main.sent_of_stuck hinv hctx hstuck hlive 0
  have hread : (s.daemon.detectors 0).read = s.handled.map record := (reachable_inv hs).read
  rw [hrec]
  exact hsent.trans (hread ▸ Pipeline.image_records s.handled)

/-- All broadcasts have been handed to `conn.Emit`. -/
theorem emits_of_stuck : s.emits.map Prod.fst = broadcasts s.daemon.fan.received := by
  have hreach := reachable_daemon hs
  have hinv := Main.reachable_inv hreach
  have hlive := not_deadBlocked hs hctx hc
  have hcons := Main.consumed_of_stuck hinv hctx hstuck (Main.reachable_drained hreach) hlive 0 hc
  have hsignals := (reachable_inv hs).signals
  unfold Signals at hsignals
  have hpending : pending s.notifier = [] := by
    rcases Main.notifier_of_stuck hstuck 0 with hp | ⟨err, hp⟩ <;>
      rw [State.notifier, hp] <;> rfl
  rw [hpending, List.append_nil] at hsignals
  exact hsignals.symm.trans hcons

/-- If the last record about a device was sent and the last event accepted, the device is on exactly
if it is reported on in the ring buffer. -/
theorem level_iff_reporting (hring : s.ring = []) {v : GoString}
    (hrecord : ∀ h, Pipeline.lastRecord v s.handled = some h →
      (Detect.delivered (Pipeline.ofKernel h.1) h.2).isSome)
    (hevent : ∀ r, Coord.lastAbout v s.daemon.fan.received = some r → r.accepted = true) :
    Coord.Level v s.daemon.fan.received ↔ Bpf.Reporting s.firings v := by
  have hsub := (reachable_inv hs).submitted
  rw [hring, List.append_nil] at hsub
  have hone : ∀ r ∈ s.daemon.fan.received, r.ev.detector = Detect.ebpfVb2IoctlDetectorName := by
    intro r hr
    have hmem := List.mem_map_of_mem (f := (·.ev)) hr
    rw [received_of_stuck hs hctx hstuck hc] at hmem
    exact Pipeline.detector_of_mem_sentFor hmem
  rw [Coord.level_iff_last hone hevent, received_of_stuck hs hctx hstuck hc,
    Pipeline.getLast_sentFor hrecord, ← hsub]
  rfl

/-- An On or Off of a capture device is accepted, and the probes submit nothing else. -/
theorem accepted_of_capture {r : Coord.Received} (hr : r ∈ s.daemon.fan.received)
    (hquery : ∃ cap, r.query = .ok cap ∧ cap.hasCapabilities [v4l2CapVideoCapture]) :
    r.accepted = true := by
  obtain ⟨cap, hquery, hcap⟩ := hquery
  have hev := List.mem_map_of_mem (f := (·.ev)) hr
  rw [received_of_stuck hs hctx hstuck hc] at hev
  obtain ⟨h, hh, hd⟩ := List.mem_filterMap.1 hev
  have hsub : h.1 ∈ Bpf.submitted s.firings := by
    rw [(reachable_inv hs).submitted]
    exact List.mem_append_left _ (List.mem_map_of_mem hh)
  have htype : r.ev.type = cameraEventRecordingOn ∨ r.ev.type = cameraEventRecordingOff := by
    rw [(Pipeline.delivered_eq hd).2.1]
    exact (Bpf.type_of_mem_submitted hsub).imp_left And.left
  rcases htype with ht | ht <;> simp [Coord.Received.accepted, hquery, hcap, ht]

end

variable (hq : Quiet s) (hc : Connected s)
include hs hq hc

/-- The tray shows the devices whose last signal is an On. -/
theorem mem_cameras_of_quiet (hstore : store.Faithful) (v : GoString) :
    v ∈ s.ui.app.activeCameras ↔
      (typesOf v (signalled s.emits)).getLast? = some cameraEventRecordingOn := by
  have hmix := (reachable_inv hs).bus
  rw [hq.bus, hq.sigCh, List.append_nil, List.append_nil] at hmix
  refine Autolight.mem_cameras_mixed hstore (reachable_ui hs) hmix (fun e he => ?_) v
  obtain ⟨p, hp, rfl⟩ := List.mem_map.1 he
  refine Autolight.onsAndOffs_broadcasts s.daemon.fan.received p.1 ?_
  rw [← emits_of_stuck hs hq.ctxDone hq.daemon hc]
  exact List.mem_map_of_mem (List.mem_of_mem_filter hp)

/-- If the last of everything about a device has passed, the tray shows it exactly if it is reported
on in the ring buffer. -/
theorem mem_cameras_iff_reporting (hstore : store.Faithful) {v : GoString} (hv : LastPassed s v) :
    v ∈ s.ui.app.activeCameras ↔ Bpf.Reporting s.firings v := by
  rw [mem_cameras_of_quiet hs hq hc hstore, getLast_signalled hv.signal,
    emits_of_stuck hs hq.ctxDone hq.daemon hc, Coord.getLast_broadcasts_iff,
    level_iff_reporting hs hq.ctxDone hq.daemon hc hq.ring hv.record hv.event]

end

/-! ## Without failures -/

/-- Nothing has failed, all devices capture and all releases are final, which is to say that the
process of a release was gone when its record was read. -/
structure Unfailed (s : State n) : Prop where
  firings : Bpf.Unfailing s.firings
  kill : ∀ h ∈ s.handled, h.1.source = Bpf.cameraEventSourceFopRelease → h.2 = .esrch
  query : ∀ r ∈ s.daemon.fan.received,
    ∃ cap, r.query = .ok cap ∧ cap.hasCapabilities [v4l2CapVideoCapture]
  emit : ∀ p ∈ s.emits, p.2 = true
  connected : Connected s

/-- A record is sent unless it is of a release that is not final. -/
theorem delivered_of_final {h : Handled}
    (hkill : h.1.source = Bpf.cameraEventSourceFopRelease → h.2 = .esrch) :
    (Detect.delivered (Pipeline.ofKernel h.1) h.2).isSome := by
  unfold Detect.delivered
  rw [if_neg, Option.isSome_some]
  rintro ⟨hsource, hne⟩
  exact hne (hkill hsource)

theorem Unfailed.lastPassed {store : Store} {s : State n} (hs : Reachable store s)
    (hctx : s.daemon.fan.ctxDone = false) (hstuck : ¬ Main.Moves Main.mainKinds s.daemon)
    (hun : Unfailed s) (v : GoString) : LastPassed s v where
  record := fun h hlast => delivered_of_final
    (hun.kill h (List.mem_of_mem_filter (List.mem_of_getLast? hlast)))
  event := by
    intro r hlast
    have hmem := List.mem_of_mem_filter (List.mem_of_getLast? hlast)
    exact accepted_of_capture hs hctx hstuck hun.connected hmem (hun.query r hmem)
  signal := by
    intro p hlast
    exact hun.emit p (List.mem_of_mem_filter (List.mem_of_getLast? hlast))

section
variable {store : Store} {s : State n} (hs : Reachable store s) (hq : Quiet s)
  (hstore : store.Faithful) (hun : Unfailed s)
include hs hq hstore hun

theorem mem_cameras_iff_entry (v : GoString) :
    v ∈ s.ui.app.activeCameras ↔ ∃ k ∈ Bpf.streamingPid s.firings, k.device = v := by
  rw [mem_cameras_iff_reporting hs hq hun.connected hstore
    (hun.lastPassed hs hq.ctxDone hq.daemon v), Bpf.reporting_iff_entry hun.firings]

theorem exists_camera_iff :
    (∃ v, v ∈ s.ui.app.activeCameras) ↔ ∃ k, k ∈ Bpf.streamingPid s.firings := by
  constructor
  · rintro ⟨v, hv⟩
    obtain ⟨k, hk, -⟩ := (mem_cameras_iff_entry hs hq hstore hun v).1 hv
    exact ⟨k, hk⟩
  · rintro ⟨k, hk⟩
    exact ⟨k.device, (mem_cameras_iff_entry hs hq hstore hun _).2 ⟨k, hk, rfl⟩⟩

end

/-- **The tray agrees with the kernel.** Whatever the order in which the kernel, the daemon, the bus
and the application take their steps, with signals of others and clicks among them: if nothing is
under way and nothing has failed, all devices capture and all releases are final, the application
shows the devices with an entry in `streaming_pid`, and its label says whether there is one. -/
theorem tray_agrees (store : Store) (hstore : store.Faithful) (s : State n)
    (hs : Reachable store s) (hq : Quiet s) (hun : Unfailed s) :
    (∀ v, v ∈ s.ui.app.activeCameras ↔ ∃ k ∈ Bpf.streamingPid s.firings, k.device = v) ∧
    (s.ui.app.cameraStatusItem = Autolight.cameraStatusOnLabel ↔
      ∃ k, k ∈ Bpf.streamingPid s.firings) :=
  ⟨mem_cameras_iff_entry hs hq hstore hun,
    (label_iff hs hq).trans (exists_camera_iff hs hq hstore hun)⟩

/-- The daemon is about to be started, and `video0` has been turned on in the last of the firings.
-/
def fired (t : List Bpf.Firing) : State 0 :=
  { init with firings := t, ring := Bpf.submits [] (Bpf.onVideo0 .streamon 7) }

/-- Nothing is left to be done but what the application is about to do, and nothing has failed since
the record was read. -/
structure Told (t : List Bpf.Firing) (s : State 0) : Prop where
  run : Relation.ReflTransGen (fun s s' => ∃ a, Step Dbus.storeFields a s s') (fired t) s
  thread : s.ui.thread = some .cameraOn
  enabled : s.ui.app.disabled = false
  waiting : Main.Waiting s.daemon
  listening : s.quit = false ∧ s.returned = false
  drained : s.ring = [] ∧ s.bus = [] ∧ s.sigCh.buf = []
  firings : s.firings = t
  kill : ∀ h ∈ s.handled, h.2 = .esrch
  query : ∀ r ∈ s.daemon.fan.received, r.query = .ok .capture
  accepted : ∀ r ∈ s.daemon.fan.received, r.accepted = true
  emit : ∀ p ∈ s.emits, p.2 = true
  connected : Connected s

/-- It gets to the application that `video0` is on. -/
theorem told_of_fired (t : List Bpf.Firing) : ∃ s, Told t s := by
  have h0 : Relation.ReflTransGen (fun s s' => ∃ a, Step Dbus.storeFields a s s') (fired t) _ :=
    run_ready rfl rfl
  -- the record is read, its event received and broadcast
  have h1 := h0.tail ⟨_, .read .esrch rfl rfl rfl⟩
  have h2 := h1.tail ⟨_, .own (a := .detector 0) (by simp)
    (.pass (.ok .capture) (.send rfl) rfl ⟨rfl, rfl⟩) (by simp)⟩
  have h3 := h2.tail ⟨_, .own (by simp) (.send (j := 0) rfl rfl) (by simp)⟩
  have h4 := h3.tail ⟨_, .own (by simp) (.finish rfl) (by simp)⟩
  have h5 := h4.tail ⟨_, .own (a := .notifier 0) (by simp) (.consume rfl rfl)
    fun _ h => by cases h⟩
  -- the signal is emitted and received
  have h6 := h5.tail ⟨_, .emit rfl⟩
  have h7 := h6.tail ⟨_, .deliver rfl rfl⟩
  have h8 := h7.tail ⟨_, .receive rfl rfl rfl⟩
  exact ⟨_, {
    run := h8
    thread := rfl
    enabled := rfl
    waiting := ⟨rfl, rfl, ⟨rfl, rfl⟩, Fin.forall_fin_one.2 ⟨rfl, rfl, rfl, rfl⟩, Nat.zero_lt_one,
      rfl, rfl, Fin.forall_fin_one.2 ⟨rfl, rfl, rfl⟩⟩
    listening := ⟨rfl, rfl⟩
    drained := ⟨rfl, rfl, rfl⟩
    firings := rfl
    kill := List.forall_mem_singleton.2 rfl
    query := List.forall_mem_singleton.2 rfl
    accepted := List.forall_mem_singleton.2 rfl
    emit := List.forall_mem_singleton.2 rfl
    connected := fun err h => by cases h }⟩

section
variable {t : List Bpf.Firing} {s : State 0} (hs : Told t s) {ui : Autolight.Ui}
include hs

theorem Told.reachable (h0 : Reachable Dbus.storeFields (fired t)) :
    Reachable Dbus.storeFields s := h0.trans hs.run

/-- Once the application has done it, nothing is under way. -/
theorem Told.quiet (hidle : ui.thread = none) : Quiet { s with ui := ui } :=
  ⟨hs.waiting.ctxDone, hs.waiting.not_moves, hs.drained.1, hs.drained.2.1, hs.drained.2.2, hidle⟩

theorem Told.unfailed (ht : Bpf.Unfailing t) : Unfailed { s with ui := ui } :=
  ⟨hs.firings ▸ ht, fun h hh _ => hs.kill h hh,
    fun r hr => ⟨.capture, hs.query r hr, by decide⟩, hs.emit, hs.connected⟩

end

theorem reachable_fired :
    Reachable Dbus.storeFields (fired [Bpf.onVideo0 .streamon 7]) :=
  .single ⟨_, .fire _⟩

/-- The application shows `video0`. -/
theorem exists_shown : ∃ s : State 0, Reachable Dbus.storeFields s ∧ Quiet s ∧ Unfailed s ∧
    s.firings = [Bpf.onVideo0 .streamon 7] := by
  obtain ⟨s, hs⟩ := told_of_fired [Bpf.onVideo0 .streamon 7]
  have hshown := (hs.reachable reachable_fired).tail ⟨_, .critical [] hs.thread⟩
  exact ⟨_, hshown, hs.quiet rfl, hs.unfailed (.of_length (by decide) (by decide)), hs.firings⟩

/-- `video0` is turned on. -/
theorem agrees_after_on : ∃ s : State 0, Reachable Dbus.storeFields s ∧
    Bpf.video0.device ∈ s.ui.app.activeCameras ∧
    s.ui.app.cameraStatusItem = Autolight.cameraStatusOnLabel := by
  obtain ⟨s, hs, hq, hun, hfirings⟩ := exists_shown
  have hagrees := tray_agrees _ Dbus.storeFields_faithful s hs hq hun
  rw [hfirings] at hagrees
  exact ⟨s, hs, (hagrees.1 _).2 ⟨Bpf.video0, by decide, rfl⟩,
    hagrees.2.2 ⟨Bpf.video0, by decide⟩⟩

/-! ## After failures -/

/-- **The tray recovers.** Whatever has failed before, in the kernel, at the liveness checks, the
queries or on the bus: if nothing is under way, the device's last firings have succeeded from one on
that emits, and the last record, event and signal about it have passed, then the application shows
the device exactly if it has an entry in `streaming_pid`. -/
theorem tray_recovers (store : Store) (hstore : store.Faithful) (s : State n)
    (hs : Reachable store s) (hq : Quiet s) (hc : Connected s) (k : Bpf.DeviceNameKey)
    (hlast : LastPassed s k.device) (t : List Bpf.Firing) (f : Bpf.Firing) (r : List Bpf.Firing)
    (hsplit : s.firings = t ++ [f] ++ r) (hk : f.key = some k) (hf : Bpf.Sound t f k)
    (he : Bpf.Effective t f k)
    (hr : ∀ l g q, r = l ++ g :: q → g.key = some k → Bpf.Sound (t ++ [f] ++ l) g k) :
    k.device ∈ s.ui.app.activeCameras ↔ k ∈ Bpf.streamingPid s.firings := by
  rw [mem_cameras_iff_reporting hs hq hc hstore hlast, hsplit]
  exact ((Bpf.agrees_of_effective hk hf he).append hr).symm

/-- The first streamon gets no slot, and its process calls it again. -/
theorem recovers_after_lost_on : ∃ s : State 0, Reachable Dbus.storeFields s ∧
    Bpf.video0.device ∈ s.ui.app.activeCameras := by
  have h0 : Reachable Dbus.storeFields (init : State 0) := .refl
  have h1 := h0.tail ⟨_, .fire { Bpf.onVideo0 .streamon 7 with reserve := none }⟩
  have h2 : Reachable Dbus.storeFields (fired [{ Bpf.onVideo0 .streamon 7 with reserve := none },
    Bpf.onVideo0 .streamon 7]) := h1.tail ⟨_, .fire _⟩
  obtain ⟨s, hs⟩ := told_of_fired [{ Bpf.onVideo0 .streamon 7 with reserve := none },
    Bpf.onVideo0 .streamon 7]
  have hshown := (hs.reachable h2).tail ⟨_, .critical [] hs.thread⟩
  have hlast : ∀ ui, LastPassed { s with ui := ui } Bpf.video0.device := by
    refine fun ui => ⟨fun h hh => ?_, fun r hr => hs.accepted r ?_, fun p hp => hs.emit p ?_⟩
    · have hesrch := hs.kill h (List.mem_of_mem_filter (List.mem_of_getLast? hh))
      simp [Detect.delivered, hesrch]
    · exact List.mem_of_mem_filter (List.mem_of_getLast? hr)
    · exact List.mem_of_mem_filter (List.mem_of_getLast? hp)
  refine ⟨_, hshown, (tray_recovers _ Dbus.storeFields_faithful _ hshown (hs.quiet rfl)
    hs.connected Bpf.video0 (hlast _) [_] (Bpf.onVideo0 .streamon 7) [] hs.firings rfl
    ⟨by decide, by decide⟩ (by simp [Bpf.Effective, Bpf.onVideo0])
    fun l g q h => by simp at h).2 ?_⟩
  dsimp only
  rw [hs.firings]
  decide

end EndToEnd
