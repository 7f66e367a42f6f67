import CameraCoordinator.Bpf.Dropped
import CameraCoordinator.Coordinator.Level
import CameraCoordinator.Pipeline.Records

/-!
# The kernel guard and the coordinator agree

Two state machines keep their own notion of a streaming device: `streaming_pid` in the kernel and
`active` in the coordinator. When every release comes from a process that is gone and every device
captures, no event is filtered out between them (`lastOn_received`), and they agree on the devices
that are on (`guard_and_coordinator_agree`).
-/

set_option autoImplicit false

namespace Pipeline

open Detect (KillResult)
open Coord (GoError)

/-- Every event is passed on, and accepted by the coordinator under the detector's name. -/
theorem lastOn_received {kill : Nat → KillResult} {query : Nat → Except GoError V4L2Capability}
    (hkill : ∀ i, kill i = .esrch)
    (hquery : ∀ i, ∃ cap, query i = .ok cap ∧ cap.hasCapabilities [v4l2CapVideoCapture])
    {es : List Bpf.CameraEvent}
    (htype : ∀ e ∈ es, e.eventType = cameraEventRecordingOn ∨ e.eventType = cameraEventRecordingOff)
    (v d : GoString) : Coord.LastOn (received query (sent kill es)) v d ↔
      d = Detect.ebpfVb2IoctlDetectorName ∧ Bpf.lastType v es = some cameraEventRecordingOn := by
  induction es using List.reverseRecOn with
  | nil => simp [sent, records, received, Coord.LastOn, Coord.acceptedOf, Bpf.lastType]
  | append_singleton es e ih =>
    have ih := ih fun e' he' => htype e' (List.mem_append_left _ he')
    have hdel : Detect.delivered (ofKernel e) (kill es.length) = some {
        detector := Detect.ebpfVb2IoctlDetectorName, type := e.eventType, videoDevice := e.device,
        card := [], busInfo := [] } := by
      simp [Detect.delivered, hkill, ofKernel, Bpf.CameraEvent.device]
    rw [sent_snoc, hdel, Option.toList_some, received_snoc, Coord.lastOn_snoc]
    obtain ⟨cap, hq, hcap⟩ := hquery (sent kill es).length
    have hacc : Coord.Received.accepted ⟨⟨Detect.ebpfVb2IoctlDetectorName, e.eventType, e.device,
        [], []⟩, query (sent kill es).length⟩ = true := by
      rcases htype e (by simp) with ht | ht <;> simp [Coord.Received.accepted, hq, hcap, ht]
    rw [hacc]
    by_cases hv : e.device = v
    · rw [Bpf.lastType_snoc es hv]
      by_cases hd : d = Detect.ebpfVb2IoctlDetectorName
      · simp [hv, hd]
      · rw [if_neg fun h => hd h.2.2, ih]
        simp [hd]
    · rw [if_neg fun h => hv h.2.1.symm, ih, Bpf.lastType_append_of_ne (by simpa using hv)]

/-- **The kernel guard and the coordinator agree.** When all releases are final and all devices
capture, the devices with an entry in `streaming_pid` are the keys of `active`, each with the one
detector, and the devices whose last broadcast is an On. -/
theorem guard_and_coordinator_agree (t : List Bpf.Firing) (hun : Bpf.Unfailing t)
    (kill : Nat → KillResult) (hkill : ∀ i, kill i = .esrch)
    (query : Nat → Except GoError V4L2Capability)
    (hquery : ∀ i, ∃ cap, query i = .ok cap ∧ cap.hasCapabilities [v4l2CapVideoCapture]) :
    (∀ v, v ∈ Coord.active (drained kill query t) ↔ ∃ k ∈ Bpf.streamingPid t, k.device = v) ∧
    (∀ v s, (Coord.active (drained kill query t)).lookup v = some s →
      ∀ d, s.lookup d = if d = Detect.ebpfVb2IoctlDetectorName then some true else none) ∧
    ∀ v, (Coord.typesOf v (Coord.broadcasts (drained kill query t))).getLast? =
        some cameraEventRecordingOn ↔ ∃ k ∈ Bpf.streamingPid t, k.device = v := by
  have htype : ∀ e ∈ Bpf.submitted t,
      e.eventType = cameraEventRecordingOn ∨ e.eventType = cameraEventRecordingOff :=
    fun e he => (Bpf.type_of_mem_submitted he).imp_left And.left
  have hlast : ∀ v d, Coord.LastOn (drained kill query t) v d ↔
      d = Detect.ebpfVb2IoctlDetectorName ∧ Bpf.Reporting t v :=
    fun v d => lastOn_received hkill hquery htype v d
  have hlevel : ∀ v, Coord.Level v (drained kill query t) ↔
      ∃ k ∈ Bpf.streamingPid t, k.device = v := by
    intro v
    rw [← Bpf.reporting_iff_entry hun]
    unfold Coord.Level
    simp [hlast]
  have hwf := Coord.active_wf (drained kill query t)
  refine ⟨fun v => ?_, fun v s hs d => ?_, fun v => ?_⟩
  · rw [← Coord.level_iff, hlevel]
  · have hin : Coord.Level v (drained kill query t) :=
      (Coord.level_iff _ v).2 (Finmap.mem_iff.2 ⟨s, hs⟩)
    have hrep : Bpf.Reporting t v := (Bpf.reporting_iff_entry hun v).2 ((hlevel v).1 hin)
    have hmem : s.lookup d = some true ↔ d = Detect.ebpfVb2IoctlDetectorName := by
      have ht : Coord.Tracks (Coord.active (drained kill query t)) v d ↔
          s.lookup d = some true := by
        rw [Coord.tracks_iff]
        simp [hs]
      rw [← ht, Coord.tracks_active_iff, hlast]
      exact and_iff_left hrep
    split
    · exact hmem.2 ‹_›
    · cases hb : s.lookup d with
      | none => rfl
      | some b =>
        have hd := (hwf v s hs).on d b hb
        exact absurd (hmem.1 (hd ▸ hb)) ‹_›
  · rw [Coord.getLast_broadcasts_iff, hlevel]

/-- A camera turned on and left on by its process. -/
theorem streaming_camera_agrees :
    (Coord.typesOf Bpf.video0.device (Coord.broadcasts (drained (fun _ => .esrch)
      (fun _ => .ok .capture) [Bpf.onVideo0 .streamon 7]))).getLast? =
        some cameraEventRecordingOn :=
  ((guard_and_coordinator_agree [Bpf.onVideo0 .streamon 7] (.of_length (by decide) (by decide))
    (fun _ => .esrch) (fun _ => rfl) (fun _ => .ok .capture)
    fun _ => ⟨.capture, rfl, by decide⟩).2.2 _).2 ⟨Bpf.video0, by decide, rfl⟩

end Pipeline
