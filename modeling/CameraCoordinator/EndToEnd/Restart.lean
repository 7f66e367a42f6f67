import CameraCoordinator.Coordinator.LostOff
import CameraCoordinator.EndToEnd.Causes
import CameraCoordinator.EndToEnd.Settled

/-!
# The daemon is restarted

The daemon may crash or be killed, upon which the service starts it again, and the service may be
restarted. Then the probes are loaded anew, with an empty `streaming_pid`, and the coordinator knows
of no device. The application is not told: it keeps the cameras that it has, and receives what was
on its way before what is emitted from then on.

What the kernel and the daemon do after a restart is a run from the start (`State.alone`), and what
the application receives is the signals of before, followed by those of this run (`Since`).
`shown_after_restart` puts the two together for the states in which nothing is under way.
-/

set_option autoImplicit false

namespace EndToEnd

open Dbus (Signal Store)
open Coord (broadcasts typesOf)
open Autolight (Mixed)

variable {n : Nat}

/-- The daemon is started again, whatever it was doing. -/
def State.restart (s : State n) : State n :=
  { init with
    bus := s.bus
    sigCh := s.sigCh
    ui := s.ui
    quit := s.quit
    returned := s.returned }

/-- The states of the runs in which the daemon may be restarted at any point. -/
def Lives (store : Store) (s : State n) : Prop :=
  Relation.ReflTransGen (fun s s' => (∃ a, Step store a s s') ∨ s' = s.restart) init s

/-- A run in which it is not restarted. -/
def Run (store : Store) (s t : State n) : Prop :=
  Relation.ReflTransGen (fun s s' => ∃ a, Step store a s s') s t

/-- The application does not notice. -/
theorem Lives.ui {store : Store} {s : State n} (h : Lives store s) :
    Autolight.Ui.Reachable store s.ui := by
  have h0 : Autolight.Ui.Reachable store (init : State n).ui := .refl
  refine Relation.ReflTransGen.invariant (P := fun s => Autolight.Ui.Reachable store s.ui) h h0 ?_
  rintro s s' (⟨a, hstep⟩ | rfl) hs
  · rcases hstep.ui with heq | hui
    · rw [heq]
      exact hs
    · exact hs.tail hui
  · exact hs

theorem Reachable.lives {store : Store} {s : State n} (h : Reachable store s) : Lives store s :=
  Relation.ReflTransGen.mono (fun _ _ => .inl) _ _ h

theorem Run.lives {store : Store} {s t : State n} (h : Run store s t) (hs : Lives store s) :
    Lives store t :=
  Relation.ReflTransGen.trans hs (Relation.ReflTransGen.mono (fun _ _ => .inl) _ _ h)

/-! ## The two sides -/

/-- The kernel and the daemon, as if the application had yet to receive all of their signals. -/
def State.alone (s : State n) : State n :=
  { s with
    bus := (signalled s.emits).map Dbus.emit
    sigCh := .make 16
    ui := .init
    quit := false
    returned := false }

/-- The signals received, and those on their way. -/
def State.stream (s : State n) : List Signal := s.ui.received ++ s.sigCh.buf ++ s.bus

section
variable {store : Store} {b : Actor} {s t t' : State n}

/-- A step is one of the kernel and the daemon, or none of theirs. -/
theorem Step.alone (h : Step store b t t') : t'.alone = t.alone ∨
    Step store b t.alone t'.alone := by
  cases h with
  | fire f => exact .inr (.fire f)
  | cancel => exact .inr .cancel
  | read kill hring hr hc => exact .inr (.read kill hring hr hc)
  | readFails err hr hc => exact .inr (.readFails err hr hc)
  | own ha hstep hemit => exact .inr (.own ha hstep hemit)
  | emit hev =>
    have hstep : Step store .programs t.alone _ := .emit hev
    right
    simpa [State.alone, signalled_snoc] using hstep
  | emitFails hev =>
    have hstep : Step store .environment t.alone _ := .emitFails hev
    right
    simpa [State.alone, signalled_snoc] using hstep
  | _ => exact .inl rfl

/-- A step adds the signal that it emits, if any, or one that is rejected. -/
theorem Step.stream (h : Step store b t t') : ∃ sigs, t'.stream = t.stream ++ sigs ∧
    ∀ later, Mixed store (signalled t.emits) later →
      Mixed store (signalled t'.emits) (later ++ sigs) := by
  have hsame : t'.stream = t.stream → signalled t'.emits = signalled t.emits →
      ∃ sigs, t'.stream = t.stream ++ sigs ∧ ∀ later, Mixed store (signalled t.emits) later →
        Mixed store (signalled t'.emits) (later ++ sigs) := by
    intro hstream hem
    refine ⟨[], by rw [hstream, List.append_nil], fun later hmix => ?_⟩
    rw [hem, List.append_nil]
    exact hmix
  cases h with
  | @emit _ ev hev =>
    refine ⟨[Dbus.emit ev], (List.append_assoc ..).symm, fun later hmix => ?_⟩
    rw [signalled_snoc, if_pos rfl]
    exact .emitted ev hmix
  | emitFails hev => exact hsame rfl (by rw [signalled_snoc]; simp)
  | @foreign _ sig hrej =>
    exact ⟨[sig], (List.append_assoc ..).symm, fun later hmix => .foreign hrej hmix⟩
  | @deliver _ sig rest c hb hsend =>
    refine hsame ?_ rfl
    simp [State.stream, hb, Chan.buf_of_send hsend]
  | @receive _ sig c _ _ hrecv =>
    refine hsame ?_ rfl
    simp [State.stream, (Chan.recv_some hrecv).1]
  | _ => exact hsame rfl rfl

/-- The state `t` has come about from a restart of the daemon at `s`. -/
structure Since (store : Store) (s t : State n) : Prop where
  alone : Reachable store t.alone
  stream : ∃ later, t.stream = s.stream ++ later ∧ Mixed store (signalled t.emits) later

theorem since_restart (store : Store) (s : State n) : Since store s s.restart :=
  ⟨.refl, [], (List.append_nil _).symm, .nil⟩

theorem Since.step (hs : Since store s t) (h : Step store b t t') : Since store s t' := by
  obtain ⟨halone, later, hstream, hmix⟩ := hs
  constructor
  · rcases h.alone with heq | hstep
    · rw [heq]
      exact halone
    · exact halone.tail ⟨_, hstep⟩
  · obtain ⟨sigs, hsigs, hlater⟩ := h.stream
    refine ⟨later ++ sigs, ?_, hlater later hmix⟩
    rw [hsigs, hstream, List.append_assoc]

theorem Run.since (h : Run store s.restart t) : Since store s t :=
  Relation.ReflTransGen.invariant_labelled h (since_restart store s) fun hstep ht => ht.step hstep

end

/-! ## What gets through -/

/-- A streamon that gets a slot is submitted. -/
theorem exists_submitted {v : GoString} {t : List Bpf.Firing} {f : Bpf.Firing} (hf : f ∈ t)
    (ht : TurnsOn v f) : ∃ e ∈ Bpf.submitted t, recordOn v e = true := by
  obtain ⟨l, r, rfl⟩ := List.append_of_mem hf
  obtain ⟨hp, hres, hkey⟩ := ht
  obtain ⟨k, hk, rfl⟩ := Option.map_eq_some_iff.1 hkey
  have hstep := Bpf.step_of_key (Bpf.streamingPid l) hk
  simp only [hp, true_and, reduceCtorEq, false_and, or_false] at hstep
  obtain ⟨e, he, hem⟩ := hstep.2.of_isSome hres
  have hmem : e ∈ Bpf.submitted (l ++ [f]) := by
    rw [Bpf.submitted_snoc, Bpf.submits, he]
    simp
  have hprefix : l ++ [f] <+: l ++ f :: r := ⟨r, by simp⟩
  refine ⟨e, (Bpf.run.out_prefix ∅ hprefix).subset hmem, ?_⟩
  simp [recordOn, hem.eventType, hem.device]

section
variable {store : Store} {s : State n} (hs : Reachable store s)
  (hctx : s.daemon.fan.ctxDone = false) (hstuck : ¬ Main.Moves Main.mainKinds s.daemon)
  (hring : s.ring = []) (hun : Unfailed s)
include hs hctx hstuck hring hun

/-- Where nothing has failed, an On of the device is broadcast. -/
theorem broadcast_of_turnsOn {v : GoString} {f : Bpf.Firing} (hf : f ∈ s.firings)
    (ht : TurnsOn v f) : cameraEventRecordingOn ∈ typesOf v (broadcasts s.daemon.fan.received) := by
  obtain ⟨e, he, hon⟩ := exists_submitted hf ht
  obtain ⟨htype, rfl⟩ : e.eventType = Bpf.cameraEventTypeStreamOn ∧ e.device = v := by
    simpa [recordOn] using hon
  -- its record was read and sent
  rw [(reachable_inv hs).submitted, hring, List.append_nil] at he
  obtain ⟨h, hh, rfl⟩ := List.mem_map.1 he
  obtain ⟨ev, hev⟩ := Option.isSome_iff_exists.1 (delivered_of_final (hun.kill h hh))
  obtain ⟨-, hevType, hevDevice⟩ := Pipeline.delivered_eq hev
  -- and its event received and accepted
  have hsent : ev ∈ Pipeline.sentFor s.handled := List.mem_filterMap.2 ⟨h, hh, hev⟩
  rw [← received_of_stuck hs hctx hstuck hun.connected] at hsent
  obtain ⟨r, hr, rfl⟩ := List.mem_map.1 hsent
  have hacc := accepted_of_capture hs hctx hstuck hun.connected hr (hun.query r hr)
  have htaken := Coord.Taken.of_accepted hr hacc (hevType.trans htype)
  rw [← hevDevice]
  exact htaken.reported

/-- Nothing is broadcast about the devices that were not turned on. -/
theorem typesOf_eq_nil_iff (v : GoString) : typesOf v (broadcasts s.daemon.fan.received) = [] ↔
    ∀ f ∈ s.firings, ¬ TurnsOn v f := by
  constructor
  · intro hnil f hf ht
    have hmem := broadcast_of_turnsOn hs hctx hstuck hring hun hf ht
    rw [hnil] at hmem
    cases hmem
  · intro hnone
    have hzero : (s.firings.countP fun f => TurnsOn v f) = 0 :=
      List.countP_eq_zero.2 fun f hf => by simpa using hnone f hf
    have hle := broadcast_ons_le_firings hs v
    rw [hzero, ← count_typesOf] at hle
    have halt := Coord.alternates_broadcasts s.daemon.fan.received v
    cases htypes : typesOf v (broadcasts s.daemon.fan.received) with
    | nil => rfl
    | cons type types =>
      rw [htypes] at halt hle
      obtain ⟨rfl, -⟩ := Alternates.cons_iff.1 halt
      simp at hle

/-- The last of what is broadcast about a device is right. -/
theorem getLast_broadcasts_iff_entry (v : GoString) :
    (typesOf v (broadcasts s.daemon.fan.received)).getLast? = some cameraEventRecordingOn ↔
      ∃ k ∈ Bpf.streamingPid s.firings, k.device = v := by
  have hlast := hun.lastPassed hs hctx hstuck v
  rw [Coord.getLast_broadcasts_iff,
    level_iff_reporting hs hctx hstuck hun.connected hring hlast.record hlast.event,
    Bpf.reporting_iff_entry hun.firings]

end

/-! ## What is shown -/

/-- The last On or Off about the device that was on the bus is an On. -/
def LastHeard (store : Store) (v : GoString) (s : State n) : Prop :=
  (Autolight.reports store v s.stream).getLast? = some true

/-- The last of some reports is an On: it is the last of the later ones, or there are none. -/
theorem getLast_reports_iff {types : List CameraEventType} {before : Option Bool} :
    (types.getLast?.map (· == cameraEventRecordingOn)).or before = some true ↔
      types.getLast? = some cameraEventRecordingOn ∨ before = some true ∧ types = [] := by
  cases h : types.getLast? with
  | none => simp [List.getLast?_eq_none_iff.1 h]
  | some type =>
    have hne : types ≠ [] := by
      rintro rfl
      cases h
    simp [hne]

section
variable {store : Store} {s t : State n} (h : Since store s t) (hq : Quiet t) (hun : Unfailed t)
include h hq hun

theorem Since.signalled_eq : signalled t.emits = broadcasts t.daemon.fan.received := by
  have hall := emits_of_stuck h.alone hq.ctxDone hq.daemon hun.connected
  rw [signalled, List.filter_eq_self.2 hun.emit]
  exact hall

/-- The application shows what was last broadcast since the restart, or before. -/
theorem Since.mem_cameras_iff (hstore : store.Faithful) (hui : Autolight.Ui.Reachable store t.ui)
    (v : GoString) : v ∈ t.ui.app.activeCameras ↔
      (typesOf v (broadcasts t.daemon.fan.received)).getLast? = some cameraEventRecordingOn ∨
        (LastHeard store v s ∧ typesOf v (broadcasts t.daemon.fan.received) = []) := by
  obtain ⟨later, hstream, hmix⟩ := h.stream
  have hreceived : t.ui.received = s.stream ++ later := by
    rw [← hstream, State.stream, hq.bus, hq.sigCh, List.append_nil, List.append_nil]
  have hons : Autolight.OnsAndOffs (signalled t.emits) :=
    onsAndOffs_signalled (s := t.alone) h.alone
  rw [Autolight.mem_cameras_iff hui, hreceived, Autolight.reports_append, List.getLast?_append,
    Autolight.reports_mixed hstore hmix hons, List.getLast?_map, h.signalled_eq hq hun]
  exact getLast_reports_iff

/-- A device that the application shows although nobody has turned it on is one it was left with. -/
theorem Since.shown_iff (hstore : store.Faithful) (hui : Autolight.Ui.Reachable store t.ui)
    (v : GoString) : v ∈ t.ui.app.activeCameras ↔
      (∃ k ∈ Bpf.streamingPid t.firings, k.device = v) ∨
        (LastHeard store v s ∧ ∀ f ∈ t.firings, ¬ TurnsOn v f) := by
  have hun' : Unfailed t.alone := ⟨hun.firings, hun.kill, hun.query, hun.emit, hun.connected⟩
  have hentry := getLast_broadcasts_iff_entry h.alone hq.ctxDone hq.daemon hq.ring hun' v
  have hnil := typesOf_eq_nil_iff h.alone hq.ctxDone hq.daemon hq.ring hun' v
  rw [h.mem_cameras_iff hq hun hstore hui]
  exact or_congr hentry (and_congr_right' hnil)

end

/-- **The tray after a restart.** However often the daemon was restarted before and whatever failed
then: if it is restarted at `s` and not again, and at `t` nothing is under way and since `s` nothing
has failed, all devices capture and all releases are final, the application shows the devices with
an entry in `streaming_pid`, and those that nobody has turned on since of which the last signal on
the bus before `s` was an On. The latter it shows also if they have been turned off since. Its label
says whether there are any. -/
theorem shown_after_restart (store : Store) (hstore : store.Faithful) (s t : State n)
    (hs : Lives store s) (hrun : Run store s.restart t) (hq : Quiet t) (hun : Unfailed t) :
    (∀ v, v ∈ t.ui.app.activeCameras ↔ (∃ k ∈ Bpf.streamingPid t.firings, k.device = v) ∨
      (LastHeard store v s ∧ ∀ f ∈ t.firings, ¬ TurnsOn v f)) ∧
    (t.ui.app.cameraStatusItem = Autolight.cameraStatusOnLabel ↔
      (∃ k, k ∈ Bpf.streamingPid t.firings) ∨
        ∃ v, LastHeard store v s ∧ ∀ f ∈ t.firings, ¬ TurnsOn v f) := by
  have hrestarted : Lives store s.restart := hs.tail (.inr rfl)
  have hui := (hrun.lives hrestarted).ui
  have hshown := hrun.since.shown_iff hq hun hstore hui
  refine ⟨hshown, ?_⟩
  have hlabel := (Autolight.Ui.reachable_inv hui).cameraLabel hq.thread
  rw [hlabel.on_iff, GoMap.ne_empty_iff]
  constructor
  · rintro ⟨v, hv⟩
    rcases (hshown v).1 hv with ⟨k, hk, -⟩ | hleft
    · exact .inl ⟨k, hk⟩
    · exact .inr ⟨v, hleft⟩
  · rintro (⟨k, hk⟩ | ⟨v, hleft⟩)
    · exact ⟨k.device, (hshown _).2 (.inl ⟨k, hk, rfl⟩)⟩
    · exact ⟨v, (hshown v).2 (.inr hleft)⟩

/-- After a restart `video0` is turned off, of which nothing gets to the application. -/
theorem exists_turnedOff {s : State 0} (hbus : s.bus = []) (hsigCh : s.sigCh.buf = [])
    (hidle : s.ui.thread = none) : ∃ t, Run Dbus.storeFields s.restart t ∧ Quiet t ∧ Unfailed t ∧
      t.firings = [Bpf.onVideo0 .streamoff 7] := by
  have h0 : Run Dbus.storeFields s.restart _ := run_ready rfl rfl
  have h1 := h0.tail ⟨_, .fire (Bpf.onVideo0 .streamoff 7)⟩
  have h2 := h1.tail ⟨_, .read .esrch rfl rfl rfl⟩
  -- for the coordinator, the device is off
  have h3 := h2.tail ⟨_, .own (a := .detector 0) (by simp)
    (.pass (.ok .capture) (.send rfl) rfl ⟨rfl, rfl⟩) (by simp)⟩
  have hfirings : Bpf.Unfailing [Bpf.onVideo0 .streamoff 7] := .of_length (by decide) (by decide)
  refine ⟨_, h3, ⟨rfl, ?_, rfl, hbus, hsigCh, hidle⟩, ?_, rfl⟩
  · apply Main.Waiting.not_moves
    exact ⟨rfl, rfl, ⟨rfl, rfl⟩, Fin.forall_fin_one.2 ⟨rfl, rfl, rfl, rfl⟩, Nat.zero_lt_one, rfl,
      rfl, Fin.forall_fin_one.2 ⟨rfl, rfl, rfl⟩⟩
  · exact {
      firings := hfirings
      kill := List.forall_mem_singleton.2 fun _ => rfl
      query := List.forall_mem_singleton.2 ⟨.capture, rfl, by decide⟩
      emit := List.forall_mem_nil _
      connected := fun err h => by cases h }

/-- `video0` is on when the daemon is restarted, and is turned off after that. -/
theorem shown_though_off : ∃ s t : State 0, Lives Dbus.storeFields s ∧
    Run Dbus.storeFields s.restart t ∧ t.firings = [Bpf.onVideo0 .streamoff 7] ∧
    Bpf.video0.device ∈ t.ui.app.activeCameras := by
  obtain ⟨s, hs, hq, hun, hfirings⟩ := exists_shown
  have hcamera := (mem_cameras_iff_entry hs hq Dbus.storeFields_faithful hun _).2
    ⟨Bpf.video0, by rw [hfirings]; decide, rfl⟩
  have hheard : LastHeard Dbus.storeFields Bpf.video0.device s := by
    rw [LastHeard, State.stream, hq.bus, hq.sigCh, List.append_nil, List.append_nil]
    exact (Autolight.mem_cameras_iff (reachable_ui hs) _).1 hcamera
  obtain ⟨t, hrun, hqt, hunt, ht⟩ := exists_turnedOff hq.bus hq.sigCh hq.thread
  have hshown := (shown_after_restart _ Dbus.storeFields_faithful s t hs.lives hrun hqt hunt).1
  refine ⟨s, t, hs.lives, hrun, ht, (hshown _).2 (.inr ⟨hheard, ?_⟩)⟩
  rw [ht]
  decide

end EndToEnd
