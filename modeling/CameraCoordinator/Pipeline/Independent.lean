import CameraCoordinator.Bpf.Serial
import CameraCoordinator.Pipeline.Last

/-!
# Devices do not interfere

Probes, detector and coordinator keep all devices in one map, one ring buffer and one channel. What
they do about a device depends on the firings on that device, and on the answers of the liveness
checks and the queries for it, and on nothing that other devices do: `devices_independent`. It is
shown stage by stage, as a rule about what is seen from the side of a device (`Mealy.Unwinds`).
-/

set_option autoImplicit false

/-! ## The coordinator -/

namespace Coord

/-- `onEvent` reads and writes the entry of the event's device only. -/
theorem onEvent_congr {active active' : Active} (r : Received)
    (h : active.lookup r.ev.videoDevice = active'.lookup r.ev.videoDevice) :
    (onEvent active r).1.lookup r.ev.videoDevice = (onEvent active' r).1.lookup r.ev.videoDevice ∧
    (onEvent active r).2 = (onEvent active' r).2 := by
  have hget : GoMap.get active r.ev.videoDevice = GoMap.get active' r.ev.videoDevice := by
    unfold GoMap.get
    rw [h]
  have htracks : Tracks active r.ev.videoDevice r.ev.detector ↔
      Tracks active' r.ev.videoDevice r.ev.detector := by
    unfold Tracks
    rw [hget]
  rcases onEvent_cases r with ⟨-, heq⟩ | ⟨cap, -, -, ⟨-, heq⟩ | ⟨-, heq⟩⟩
  · rw [heq, heq]
    exact ⟨h, rfl⟩
  · rw [heq, heq, onRecordingOn_eq, onRecordingOn_eq, hget]
    by_cases ht : Tracks active r.ev.videoDevice r.ev.detector
    · rw [if_pos ht, if_pos (htracks.1 ht)]
      exact ⟨h, rfl⟩
    · rw [if_neg ht, if_neg (mt htracks.2 ht)]
      simp
  · rw [heq, heq, onRecordingOff_eq, onRecordingOff_eq, hget]
    by_cases ht : Tracks active r.ev.videoDevice r.ev.detector
    · rw [if_pos ht, if_pos (htracks.1 ht)]
      dsimp only
      split <;> simp
    · rw [if_neg ht, if_neg (mt htracks.2 ht)]
      exact ⟨h, rfl⟩

/-- An event is broadcast about the device of the event received. -/
theorem videoDevice_of_onEvent {active : Active} {r : Received} {ev : CameraEvent}
    (h : ev ∈ (onEvent active r).2.toList) : ev.videoDevice = r.ev.videoDevice := by
  rw [Option.mem_toList] at h
  rcases onEvent_cases r with ⟨-, heq⟩ | ⟨cap, -, -, ⟨-, heq⟩ | ⟨-, heq⟩⟩
  · rw [heq] at h
    cases h
  · rw [heq, onRecordingOn_eq] at h
    split at h
    · cases h
    · dsimp only at h
      split at h <;> cases h
      rfl
  · rw [heq, onRecordingOff_eq] at h
    split at h
    · dsimp only at h
      split at h <;> cases h
      rfl
    · cases h

/-- Received events are given by the events and the answers of their queries. -/
theorem received_ext {rs rs' : List Received} (hev : rs.map (·.ev) = rs'.map (·.ev))
    (hquery : rs.map (·.query) = rs'.map (·.query)) : rs = rs' := by
  have hzip : ∀ rs : List Received,
      rs = List.zipWith Received.mk (rs.map (·.ev)) (rs.map (·.query)) := by
    intro rs
    induction rs with
    | nil => rfl
    | cons r rs ih => exact congrArg (r :: ·) ih
  rw [hzip rs, hev, hquery, ← hzip rs']

/-- The events about a device. -/
def about (v : GoString) (evs : List CameraEvent) : List CameraEvent :=
  evs.filter fun ev => ev.videoDevice == v

/-- What is received about a device. -/
def receivedAbout (v : GoString) (rs : List Received) : List Received :=
  rs.filter fun r => r.ev.videoDevice == v

/-- A device sees its own events of what the coordinator receives. -/
theorem run_unwinds (v : GoString) : Mealy.Unwinds run (fun _ => True) (fun _ => True)
    (fun r => r.ev.videoDevice == v) (fun active => active.lookup v)
    (fun ev => ev.videoDevice == v) where
  inv := fun _ _ => trivial
  unseen := by
    intro active r hr _
    have hne : r.ev.videoDevice ≠ v := by simpa using hr
    refine ⟨lookup_onEvent_ne (Ne.symm hne), List.filter_eq_nil_iff.2 fun ev hev => ?_⟩
    have hdev : ev.videoDevice = r.ev.videoDevice := videoDevice_of_onEvent hev
    simp [hdev, hne]
  seen := by
    intro active active' r hr _ _ _ h
    obtain rfl : r.ev.videoDevice = v := by simpa using hr
    obtain ⟨hlookup, hout⟩ := onEvent_congr r h
    refine ⟨hlookup, ?_⟩
    show ((onEvent active r).2.toList.filter _) = ((onEvent active' r).2.toList.filter _)
    rw [hout]

theorem receivedAbout_run (v : GoString) (rs : List Received) :
    (active rs).lookup v = (active (receivedAbout v rs)).lookup v ∧
    about v (broadcasts rs) = about v (broadcasts (receivedAbout v rs)) :=
  (run_unwinds v).run trivial trivial rfl fun _ _ => trivial

end Coord

/-! ## The kernel -/

namespace Bpf

/-- A device sees its own firings. -/
theorem run_unwinds (k : DeviceNameKey) {ks : Finset DeviceNameKey} (hcard : ks.card ≤ 64) :
    Mealy.Unwinds run (fun f => ∀ k, f.key = some k → k ∈ ks) (Within ks) (fun f => f.key == some k)
      (fun m => m.lookup k) (fun e => e.device == k.device) where
  inv := by
    intro m f hf hm k' hk'
    by_cases hfk : f.key = some k'
    · exact hf k' hfk
    · rw [BoundedMap.mem_iff, lookup_step_ne hfk, ← BoundedMap.mem_iff] at hk'
      exact hm k' hk'
  unseen := by
    intro m f hf _
    have hne : f.key ≠ some k := by simpa using hf
    refine ⟨lookup_step_ne hne, List.filter_eq_nil_iff.2 fun e he => ?_⟩
    simp [device_ne_of_mem_step hne he]
  seen := by
    intro m m' f hf hkeys hm hm' h
    have hk : f.key = some k := by simpa using hf
    obtain ⟨hlookup, hout⟩ := finish_congr hcard hk (hkeys k hk) .enter hm hm' h
    rw [finish_enter, finish_enter] at hlookup hout
    exact ⟨hlookup, by rw [hout]⟩

/-- The firings on a device. -/
def firingsOn (k : DeviceNameKey) (t : List Firing) : List Firing :=
  t.filter fun f => f.key == some k

theorem firingsOn_run (k : DeviceNameKey) {t : List Firing} (hcard : (deviceKeys t).card ≤ 64) :
    (streamingPid t).lookup k = (streamingPid (firingsOn k t)).lookup k ∧
    (submitted t).filter (fun e => e.device == k.device) =
      (submitted (firingsOn k t)).filter fun e => e.device == k.device := by
  have hempty : Within (deviceKeys t) ∅ := by
    intro k' hk'
    simp [BoundedMap.mem_iff] at hk'
  exact (run_unwinds k hcard).run hempty hempty rfl fun f hf k' hk' =>
    mem_deviceKeys.2 ⟨f, hf, hk'⟩

end Bpf

/-! ## All of them -/

namespace Pipeline

open Detect (KillResult)
open Coord (Received GoError receivedAbout about)

/-- What the detector has read and the coordinator has received once all records of the firings are
drained, with the answers of the liveness checks and of the queries. -/
structure Drained (t : List Bpf.Firing) (hs : List (Bpf.CameraEvent × KillResult))
    (rs : List Received) : Prop where
  records : hs.map Prod.fst = Bpf.submitted t
  events : rs.map (·.ev) = sentFor hs

/-- The records about a device. -/
def recordsAbout (v : GoString) (hs : List (Bpf.CameraEvent × KillResult)) :
    List (Bpf.CameraEvent × KillResult) := hs.filter fun h => h.1.device == v

/-- What the detector sends about a device, it sends for the records about it. -/
theorem about_sentFor (v : GoString) (hs : List (Bpf.CameraEvent × KillResult)) :
    about v (sentFor hs) = sentFor (recordsAbout v hs) := by
  induction hs with
  | nil => rfl
  | cons h hs ih =>
    have hcons : ∀ hs, sentFor (h :: hs) =
        (Detect.delivered (ofKernel h.1) h.2).toList ++ sentFor hs := by
      intro hs
      unfold sentFor
      cases hd : Detect.delivered (ofKernel h.1) h.2 <;> simp [hd]
    rw [hcons, about, List.filter_append]
    by_cases hv : h.1.device = v
    · have hrecords : recordsAbout v (h :: hs) = h :: recordsAbout v hs := by
        simp [recordsAbout, hv]
      rw [hrecords, hcons, ← ih]
      cases hd : Detect.delivered (ofKernel h.1) h.2 with
      | none => rfl
      | some ev => simp [about, (delivered_eq hd).2.2, hv]
    · have hrecords : recordsAbout v (h :: hs) = recordsAbout v hs := by simp [recordsAbout, hv]
      rw [hrecords, ← ih]
      cases hd : Detect.delivered (ofKernel h.1) h.2 with
      | none => rfl
      | some ev => simp [about, (delivered_eq hd).2.2, hv]

/-- **Devices do not interfere.** Take any two runs of probes, detector and coordinator, each over
at most 64 devices, in which a device has the same firings, the same answers of the liveness checks
and the same answers of the queries, in order. Then its entry in `streaming_pid`, its entry in
`active` and what is broadcast about it are the same, whatever there is of other devices in either
run. -/
theorem devices_independent (k : Bpf.DeviceNameKey)
    (t t' : List Bpf.Firing) (hs hs' : List (Bpf.CameraEvent × KillResult)) (rs rs' : List Received)
    (hd : Drained t hs rs) (hd' : Drained t' hs' rs')
    (hcard : (Bpf.deviceKeys t).card ≤ 64) (hcard' : (Bpf.deviceKeys t').card ≤ 64)
    (hfirings : Bpf.firingsOn k t = Bpf.firingsOn k t')
    (hkill : (recordsAbout k.device hs).map Prod.snd = (recordsAbout k.device hs').map Prod.snd)
    (hquery : (receivedAbout k.device rs).map (·.query) =
      (receivedAbout k.device rs').map (·.query)) :
    (Bpf.streamingPid t).lookup k = (Bpf.streamingPid t').lookup k ∧
    (Coord.active rs).lookup k.device = (Coord.active rs').lookup k.device ∧
    about k.device (Coord.broadcasts rs) = about k.device (Coord.broadcasts rs') := by
  obtain ⟨hentry, hevents⟩ := Bpf.firingsOn_run k hcard
  obtain ⟨hentry', hevents'⟩ := Bpf.firingsOn_run k hcard'
  have hrecords : recordsAbout k.device hs = recordsAbout k.device hs' := by
    have hfst : ∀ {t hs rs}, Drained t hs rs → (recordsAbout k.device hs).map Prod.fst =
        (Bpf.submitted t).filter fun e => e.device == k.device := by
      intro t hs rs hd
      rw [← hd.records, List.filter_map]
      rfl
    have hsame := hfst hd
    rw [hevents, hfirings, ← hevents', ← hfst hd'] at hsame
    rw [List.zip_of_prod hsame hkill, ← List.zip_of_prod rfl rfl]
  have hreceived : receivedAbout k.device rs = receivedAbout k.device rs' := by
    have hev : ∀ {t hs rs}, Drained t hs rs → (receivedAbout k.device rs).map (·.ev) =
        sentFor (recordsAbout k.device hs) := by
      intro t hs rs hd
      rw [← about_sentFor, ← hd.events, about, List.filter_map]
      rfl
    have hsame := hev hd
    rw [hrecords, ← hev hd'] at hsame
    exact Coord.received_ext hsame hquery
  obtain ⟨hactive, habout⟩ := Coord.receivedAbout_run k.device rs
  obtain ⟨hactive', habout'⟩ := Coord.receivedAbout_run k.device rs'
  refine ⟨?_, ?_, ?_⟩
  · rw [hentry, hfirings, ← hentry']
  · rw [hactive, hreceived, ← hactive']
  · rw [habout, hreceived, ← habout']

/-- All releases are final, and only `video0` captures. -/
def onlyVideo0 (t : List Bpf.Firing) : List Received :=
  (sentFor ((Bpf.submitted t).map (·, .esrch))).map fun ev =>
    ⟨ev, if ev.videoDevice = Bpf.video0.device then .ok .capture else .error []⟩

theorem drained_onlyVideo0 (t : List Bpf.Firing) :
    Drained t ((Bpf.submitted t).map (·, .esrch)) (onlyVideo0 t) where
  records := by simp [Function.comp_def]
  events := by simp [onlyVideo0, Function.comp_def]

/-- A streamon on `video1` before the one on `video0`. -/
theorem independent_of_video1 :
    about Bpf.video0.device (Coord.broadcasts (onlyVideo0 [Bpf.onVideo0 .streamon 7])) =
      about Bpf.video0.device (Coord.broadcasts (onlyVideo0 [Bpf.onVideo1 .streamon 8,
        Bpf.onVideo0 .streamon 7])) :=
  (devices_independent Bpf.video0 _ _ _ _ _ _ (drained_onlyVideo0 [Bpf.onVideo0 .streamon 7])
    (drained_onlyVideo0 [Bpf.onVideo1 .streamon 8, Bpf.onVideo0 .streamon 7]) (by decide)
    (by decide) rfl rfl rfl).2.2

end Pipeline
