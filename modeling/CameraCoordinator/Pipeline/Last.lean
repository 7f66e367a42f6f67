import CameraCoordinator.Bpf.Dropped
import CameraCoordinator.Coordinator.Level
import CameraCoordinator.Detector.Goroutines
import CameraCoordinator.Pipeline.Records
import Mathlib.Data.List.TakeWhile

/-!
# The last record about a device

Between the ring buffer and the coordinator a device is where its last record puts it: with one
detector, a device is on exactly if the last event about it is an On (`level_iff_last`), and that
event is of the last record about it (`getLast_sentFor`), provided that these two are not filtered
out. What became of earlier records does not matter.
-/

set_option autoImplicit false

/-- The last element that satisfies `p`, if it satisfies `q` too, is the last that satisfies both.
-/
theorem List.getLast?_filter_and {α : Type*} {p q : α → Bool} {l : List α} {x : α}
    (h : (l.filter p).getLast? = some x) (hq : q x = true) :
    (l.filter fun a => q a && p a).getLast? = some x := by
  obtain ⟨init, hinit⟩ := List.getLast?_eq_some_iff.1 h
  rw [← List.filter_filter, hinit, List.filter_append]
  simp [hq]

namespace Coord

/-- The last event received about a device. -/
def lastAbout (v : GoString) (h : List Received) : Option Received :=
  (h.filter fun r => r.ev.videoDevice == v).getLast?

theorem getLast_typesOf_map (v : GoString) (h : List Received) :
    (typesOf v (h.map (·.ev))).getLast? = (lastAbout v h).map (·.ev.type) := by
  rw [typesOf, List.filter_map, List.map_map, List.getLast?_map]
  rfl

/-- With one detector, a device whose last event was accepted is on exactly if it is an On. -/
theorem level_iff_last {h : List Received} {d v : GoString} (hone : ∀ r ∈ h, r.ev.detector = d)
    (hacc : ∀ r, lastAbout v h = some r → r.accepted = true) :
    Level v h ↔ (typesOf v (h.map (·.ev))).getLast? = some cameraEventRecordingOn := by
  rw [getLast_typesOf_map]
  cases hlast : lastAbout v h with
  | none =>
    have hnil := List.filter_eq_nil_iff.1 (List.getLast?_eq_none_iff.1 hlast)
    refine iff_of_false ?_ (by simp)
    rintro ⟨d', r, hr, -⟩
    have hmem := List.mem_filter.1 (List.mem_of_getLast? hr)
    simp only [Bool.and_eq_true] at hmem
    exact hnil r hmem.1 hmem.2.2.1
  | some r =>
    have hmem := List.mem_of_getLast? hlast
    have hlastOf : (acceptedOf h v d).getLast? = some r := by
      have hand := List.getLast?_filter_and
        (q := fun r => r.accepted && r.ev.detector == d) hlast
        (by simp [hacc r hlast, hone r (List.mem_of_mem_filter hmem)])
      rw [← hand, acceptedOf]
      congr 2
      funext r
      cases r.accepted <;> simp [Bool.and_comm]
    constructor
    · rintro ⟨d', r', hr', hon⟩
      have hmem' := List.mem_filter.1 (List.mem_of_getLast? hr')
      obtain rfl : d' = d := by
        have hd := hone r' hmem'.1
        simp only [Bool.and_eq_true, beq_iff_eq] at hmem'
        exact hmem'.2.2.2.symm.trans hd
      obtain rfl := Option.some_inj.1 (hlastOf.symm.trans hr')
      simpa using hon
    · intro hon
      exact ⟨d, r, hlastOf, by simpa using hon⟩

end Coord

namespace Pipeline

open Detect (KillResult)

/-- What is sent for records and the answers of their liveness checks. -/
def sentFor (hs : List (Bpf.CameraEvent × KillResult)) : List CameraEvent :=
  hs.filterMap fun h => Detect.delivered (ofKernel h.1) h.2

/-- The last record about a device. -/
def lastRecord (v : GoString) (hs : List (Bpf.CameraEvent × KillResult)) :
    Option (Bpf.CameraEvent × KillResult) := (hs.filter fun h => h.1.device == v).getLast?

theorem image_records (hs : List (Bpf.CameraEvent × KillResult)) :
    Detect.image (hs.map fun h => ⟨h.1.bytes, h.2⟩) = sentFor hs := by
  have hread : ∀ h : Bpf.CameraEvent × KillResult,
      Detect.binaryRead h.1.bytes = .ok (ofKernel h.1) :=
    fun h => Detect.binaryRead_encode (ofKernel h.1)
  unfold Detect.image sentFor
  rw [List.takeWhile_eq_self_iff.2, List.filterMap_map]
  · congr 1
    funext h
    simp [Detect.toSend, hread]
  · intro rec hrec
    obtain ⟨h, -, rfl⟩ := List.mem_map.1 hrec
    exact decide_eq_true ⟨_, hread h⟩

theorem sentFor_snoc (hs : List (Bpf.CameraEvent × KillResult))
    (h : Bpf.CameraEvent × KillResult) :
    sentFor (hs ++ [h]) = sentFor hs ++ (Detect.delivered (ofKernel h.1) h.2).toList := by
  unfold sentFor
  rw [List.filterMap_append]
  cases hd : Detect.delivered (ofKernel h.1) h.2 <;> simp [hd]

/-- What a record is sent as. -/
theorem delivered_eq {h : Bpf.CameraEvent × KillResult} {ev : CameraEvent}
    (hd : Detect.delivered (ofKernel h.1) h.2 = some ev) :
    ev.detector = Detect.ebpfVb2IoctlDetectorName ∧ ev.type = h.1.eventType ∧
      ev.videoDevice = h.1.device := by
  unfold Detect.delivered at hd
  split at hd
  · cases hd
  · obtain rfl := Option.some_inj.1 hd
    exact ⟨rfl, rfl, rfl⟩

theorem detector_of_mem_sentFor {hs : List (Bpf.CameraEvent × KillResult)} {ev : CameraEvent}
    (h : ev ∈ sentFor hs) : ev.detector = Detect.ebpfVb2IoctlDetectorName := by
  obtain ⟨_, -, hd⟩ := List.mem_filterMap.1 h
  exact (delivered_eq hd).1

/-- If the last record about a device is sent, it is the last event about it. -/
theorem getLast_sentFor {v : GoString} {hs : List (Bpf.CameraEvent × KillResult)}
    (hlast : ∀ h, lastRecord v hs = some h → (Detect.delivered (ofKernel h.1) h.2).isSome) :
    (Coord.typesOf v (sentFor hs)).getLast? = Bpf.lastType v (hs.map Prod.fst) := by
  induction hs using List.reverseRecOn with
  | nil => rfl
  | append_singleton hs h ih =>
    rw [sentFor_snoc, Coord.typesOf_append, List.map_append, List.map_singleton]
    by_cases hv : h.1.device = v
    · have hlast := hlast h (by simp [lastRecord, List.filter_append, hv])
      obtain ⟨ev, hd⟩ := Option.isSome_iff_exists.1 hlast
      obtain ⟨-, htype, hdev⟩ := delivered_eq hd
      rw [hd, Bpf.lastType_snoc _ hv, ← htype]
      simp [Coord.typesOf, hdev, hv]
    · have hnone : Coord.typesOf v (Detect.delivered (ofKernel h.1) h.2).toList = [] := by
        cases hd : Detect.delivered (ofKernel h.1) h.2 with
        | none => rfl
        | some ev => simp [Coord.typesOf, (delivered_eq hd).2.2, hv]
      rw [hnone, List.append_nil, Bpf.lastType_append_of_ne (by simpa using hv)]
      refine ih fun h' hh' => hlast h' ?_
      simpa [lastRecord, List.filter_append, hv] using hh'

end Pipeline
