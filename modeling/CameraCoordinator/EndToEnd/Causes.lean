import CameraCoordinator.EndToEnd.Settled

/-!
# Every On has a cause

Events are dropped and filtered on their way, but never made up: whatever fails and whenever the
daemon or the application is stopped, the application has not been told more often that a device is
on than streamons on the device were submitted (`ons_caused`). So it shows a device only if there
was one.

What the stages do to the number of Ons about a device is counted stage by stage.
-/

set_option autoImplicit false

namespace EndToEnd

open Dbus (Store)
open Detect (KillResult)
open Coord (broadcasts typesOf)

variable {n : Nat} {v : GoString}

/-! ## Ons at each stage -/

/-- A streamon on the device that gets a slot. -/
def TurnsOn (v : GoString) (f : Bpf.Firing) : Prop :=
  f.probe = .streamon ∧ f.reserve.isSome ∧ f.key.map Bpf.DeviceNameKey.device = some v

instance (v : GoString) : DecidablePred (TurnsOn v) :=
  fun _ => inferInstanceAs (Decidable (_ ∧ _))

/-- A record of an On of the device. -/
def recordOn (v : GoString) (e : Bpf.CameraEvent) : Bool :=
  e.eventType == Bpf.cameraEventTypeStreamOn && e.device == v

/-- An event of an On of the device. -/
def eventOn (v : GoString) (ev : CameraEvent) : Bool :=
  ev.type == cameraEventRecordingOn && ev.videoDevice == v

/-- Each submitted On has a streamon of its own. -/
theorem submitted_ons_le (v : GoString) (t : List Bpf.Firing) :
    (Bpf.submitted t).countP (recordOn v) ≤ t.countP fun f => TurnsOn v f := by
  refine Mealy.countP_out_le (fun m f => ?_) ∅ t
  have hne : Bpf.cameraEventTypeStreamOff ≠ Bpf.cameraEventTypeStreamOn := by decide
  cases hk : f.key with
  | none => simp [Bpf.step_of_key_none m hk]
  | some k =>
    rcases Bpf.step_of_key m hk with ⟨hp, -, hem⟩ | ⟨-, -, hem⟩ | ⟨-, -, -, hem⟩ | ⟨-, -, hs⟩
    · rcases hem with ⟨-, he⟩ | ⟨e, hres, he, hem⟩
      · simp [he]
      · by_cases hv : k.device = v
        · have ht : TurnsOn v f := ⟨hp, hres, by simp [hk, hv]⟩
          have hle : [e].countP (recordOn v) ≤ 1 := List.countP_le_length
          simpa [he, ht] using hle
        · simp [he, recordOn, hem.device, hv]
    · rcases hem with ⟨-, he⟩ | ⟨e, -, he, hem⟩
      · simp [he]
      · simp [he, recordOn, hem.eventType, hne]
    · rcases hem with ⟨-, he⟩ | ⟨e, -, he, hem⟩
      · simp [he]
      · simp [he, recordOn, hem.eventType, hne]
    · simp [hs]

/-- The detector sends an event for a record at most. -/
theorem sentFor_ons_le (v : GoString) (hs : List (Bpf.CameraEvent × KillResult)) :
    (Pipeline.sentFor hs).countP (eventOn v) ≤ (hs.map Prod.fst).countP (recordOn v) := by
  induction hs using List.reverseRecOn with
  | nil => exact Nat.le_refl 0
  | append_singleton hs h ih =>
    rw [Pipeline.sentFor_snoc, List.map_append, List.countP_append, List.countP_append]
    refine Nat.add_le_add ih ?_
    cases hd : Detect.delivered (Pipeline.ofKernel h.1) h.2 with
    | none => exact Nat.zero_le _
    | some ev =>
      obtain ⟨-, htype, hdev⟩ := Pipeline.delivered_eq hd
      have heq : eventOn v ev = recordOn v h.1 := by
        rw [eventOn, recordOn, htype, hdev]
        rfl
      simp [heq]

/-- The coordinator broadcasts an On for an On at most. -/
theorem broadcast_ons_le (v : GoString) (h : List Coord.Received) :
    (broadcasts h).countP (eventOn v) ≤ (h.map (·.ev)).countP (eventOn v) := by
  rw [List.countP_map]
  refine Mealy.countP_out_le (fun active r => ?_) ∅ h
  show (Coord.onEvent active r).2.toList.countP (eventOn v) ≤ _
  have hne : cameraEventRecordingOff ≠ cameraEventRecordingOn := by decide
  rcases Coord.onEvent_cases r with ⟨-, heq⟩ | ⟨cap, -, -, ⟨hon, heq⟩ | ⟨-, heq⟩⟩
  · simp [heq]
  · rw [heq, Coord.onRecordingOn_eq]
    split
    · simp
    · dsimp only
      split <;> simp [Coord.emission, eventOn, hon, List.countP_cons]
  · rw [heq, Coord.onRecordingOff_eq]
    split
    · dsimp only
      split <;> simp [Coord.emission, eventOn, hne]
    · simp

/-- The Ons about a device are counted by their events. -/
theorem count_typesOf (v : GoString) (es : List CameraEvent) :
    (typesOf v es).count cameraEventRecordingOn = es.countP (eventOn v) := by
  rw [typesOf, List.count, List.countP_map, List.countP_filter]
  rfl

/-- The On reports in signals that were mixed with others. -/
theorem reports_ons_eq {store : Store} (hstore : store.Faithful) {es : List CameraEvent}
    {sigs : List Dbus.Signal} (hmix : Autolight.Mixed store es sigs)
    (hes : Autolight.OnsAndOffs es) (v : GoString) :
    (Autolight.reports store v sigs).count true = es.countP (eventOn v) := by
  rw [Autolight.reports_mixed hstore hmix hes v, ← count_typesOf, List.count, List.count,
    List.countP_map]
  refine List.countP_congr fun type _ => ?_
  simp

/-! ## The whole way -/

section
variable {store : Store} {s : State n} (hs : Reachable store s)
include hs

/-- What is received was sent for records that were read. -/
theorem received_ons_le (v : GoString) : (s.daemon.fan.received.map (·.ev)).countP (eventOn v) ≤
    (Pipeline.sentFor s.handled).countP (eventOn v) := by
  have hreach := reachable_daemon hs
  have hrec := (Main.reachable_receives hreach).eq_default
  have hsent := Detect.Inv.sent_prefix ((Main.reachable_inv hreach).detectors 0)
  have hread : (s.daemon.detectors 0).read = s.handled.map record := (reachable_inv hs).read
  rw [(Detect.readLoop_image _).1, hread] at hsent
  have himage := Pipeline.image_records s.handled
  rw [hrec]
  exact (himage ▸ hsent).sublist.countP_le

/-- What is broadcast was caused by streamons. -/
theorem broadcast_ons_le_firings (v : GoString) :
    (broadcasts s.daemon.fan.received).countP (eventOn v) ≤
      s.firings.countP fun f => TurnsOn v f :=
  calc (broadcasts s.daemon.fan.received).countP (eventOn v)
    _ ≤ (s.daemon.fan.received.map (·.ev)).countP (eventOn v) := broadcast_ons_le v _
    _ ≤ (Pipeline.sentFor s.handled).countP (eventOn v) := received_ons_le hs v
    _ ≤ (s.handled.map Prod.fst).countP (recordOn v) := sentFor_ons_le v _
    _ ≤ (Bpf.submitted s.firings).countP (recordOn v) := by
        rw [(reachable_inv hs).submitted]
        exact (List.sublist_append_left _ _).countP_le
    _ ≤ s.firings.countP fun f => TurnsOn v f := submitted_ons_le v _

/-- What is signalled was broadcast. -/
theorem signalled_sublist : (signalled s.emits).Sublist (broadcasts s.daemon.fan.received) := by
  have hsub := (Main.reachable_inv (reachable_daemon hs)).consumed_sublist 0
  have hsignals := (reachable_inv hs).signals
  unfold Signals State.consumed at hsignals
  rw [hsignals] at hsub
  exact (List.filter_sublist.map Prod.fst).trans ((List.sublist_append_left _ _).trans hsub)

theorem onsAndOffs_signalled : Autolight.OnsAndOffs (signalled s.emits) := fun e he =>
  Autolight.onsAndOffs_broadcasts _ e ((signalled_sublist hs).subset he)

end

/-- **Every On has a cause.** In every reachable state, whatever has failed, was filtered out, lost
or cancelled: the application has received at most as many On reports about a device as there were
streamons on it that were submitted, and shows a device, and the label On, only if there was one. -/
theorem ons_caused (store : Store) (hstore : store.Faithful) (s : State n)
    (hs : Reachable store s) :
    (∀ v, (Autolight.reports store v s.ui.received).count true ≤
      s.firings.countP fun f => TurnsOn v f) ∧
    (∀ v, v ∈ s.ui.app.activeCameras → ∃ f ∈ s.firings, TurnsOn v f) ∧
    (s.ui.thread = none → s.ui.app.cameraStatusItem = Autolight.cameraStatusOnLabel →
      ∃ v, ∃ f ∈ s.firings, TurnsOn v f) := by
  have hinv := reachable_inv hs
  have hcount : ∀ v, (Autolight.reports store v s.ui.received).count true ≤
      s.firings.countP fun f => TurnsOn v f := by
    intro v
    have hall := reports_ons_eq hstore hinv.bus (onsAndOffs_signalled hs) v
    calc (Autolight.reports store v s.ui.received).count true
        ≤ (Autolight.reports store v (s.ui.received ++ s.sigCh.buf ++ s.bus)).count true := by
          rw [List.append_assoc, Autolight.reports_append]
          exact (List.sublist_append_left _ _).count_le true
      _ = (signalled s.emits).countP (eventOn v) := hall
      _ ≤ (broadcasts s.daemon.fan.received).countP (eventOn v) :=
          (signalled_sublist hs).countP_le
      _ ≤ s.firings.countP fun f => TurnsOn v f := broadcast_ons_le_firings hs v
  have hshown : ∀ v, v ∈ s.ui.app.activeCameras → ∃ f ∈ s.firings, TurnsOn v f := by
    intro v hv
    have hlast := (Autolight.mem_cameras_iff (reachable_ui hs) v).1 hv
    have hpos := List.count_pos_iff.2 (List.mem_of_getLast? hlast)
    obtain ⟨f, hf, ht⟩ := List.countP_pos_iff.1 (Nat.lt_of_lt_of_le hpos (hcount v))
    exact ⟨f, hf, of_decide_eq_true ht⟩
  refine ⟨hcount, hshown, fun hidle hlabel => ?_⟩
  have hui := Autolight.Ui.reachable_inv (reachable_ui hs)
  rw [(hui.cameraLabel hidle).on_iff, GoMap.ne_empty_iff] at hlabel
  obtain ⟨v, hv⟩ := hlabel
  exact ⟨v, hshown v hv⟩

/-- `video0` is shown, for the streamon there was. -/
theorem shown_for_streamon : ∃ s : State 0, Reachable Dbus.storeFields s ∧
    s.firings = [Bpf.onVideo0 .streamon 7] ∧ Bpf.video0.device ∈ s.ui.app.activeCameras ∧
    (Autolight.reports Dbus.storeFields Bpf.video0.device s.ui.received).count true = 1 ∧
    (∃ f ∈ s.firings, TurnsOn Bpf.video0.device f) ∧
    s.ui.app.cameraStatusItem = Autolight.cameraStatusOnLabel ∧
    ∃ v, ∃ f ∈ s.firings, TurnsOn v f := by
  obtain ⟨s, hs, hq, hun, hfirings⟩ := exists_shown
  obtain ⟨hcount, hshown, hlabel⟩ := ons_caused _ Dbus.storeFields_faithful s hs
  have hmem := (mem_cameras_iff_entry hs hq Dbus.storeFields_faithful hun _).2
    ⟨Bpf.video0, by rw [hfirings]; decide, rfl⟩
  have hon := (label_iff hs hq).2 ⟨_, hmem⟩
  refine ⟨s, hs, hfirings, hmem, Nat.le_antisymm ?_ ?_, hshown _ hmem, hon, hlabel hq.thread hon⟩
  · have hle := hcount Bpf.video0.device
    rw [hfirings] at hle
    exact hle
  · have hlast := (Autolight.mem_cameras_iff (reachable_ui hs) _).1 hmem
    exact List.count_pos_iff.2 (List.mem_of_getLast? hlast)

end EndToEnd
