import CameraCoordinator.Bpf.Probes
import CameraCoordinator.Coordinator.Run
import CameraCoordinator.Detector.ReadLoop

/-!
# From the probes to the coordinator

The three components one after another: the records submitted by the probes are read by the
detector's loop, and the events it sends are received by the coordinator. The answers of `kill` and
of the capability queries are given by the position of the record and of the event they are about.
-/

set_option autoImplicit false

namespace Pipeline

open Detect (KillResult)
open Coord (GoError)

/-- A record of the ring buffer as the detector's Go type. -/
def ofKernel (e : Bpf.CameraEvent) : Detect.Vb2IoctlCameraEvent where
  eventType := e.eventType
  source := e.source
  pid := e.pid
  name := e.name

/-- The samples the detector reads. -/
def records (kill : Nat → KillResult) (es : List Bpf.CameraEvent) : List Detect.Record :=
  es.zipIdx.map fun p => ⟨p.1.bytes, kill p.2⟩

/-- The events the detector sends for the records. -/
def sent (kill : Nat → KillResult) (es : List Bpf.CameraEvent) : List CameraEvent :=
  Detect.readLoop.out none (records kill es)

/-- The events the coordinator receives, with the answers of their queries. -/
def received (query : Nat → Except GoError V4L2Capability) (evs : List CameraEvent) :
    List Coord.Received :=
  evs.zipIdx.map fun p => ⟨p.1, query p.2⟩

/-- What the coordinator has received once all records of the firings are drained. -/
def drained (kill : Nat → KillResult) (query : Nat → Except GoError V4L2Capability)
    (t : List Bpf.Firing) : List Coord.Received :=
  received query (sent kill (Bpf.submitted t))

theorem records_snoc (kill : Nat → KillResult) (es : List Bpf.CameraEvent) (e : Bpf.CameraEvent) :
    records kill (es ++ [e]) = records kill es ++ [⟨e.bytes, kill es.length⟩] := by
  simp [records, List.zipIdx_append]

theorem received_snoc (query : Nat → Except GoError V4L2Capability) (evs : List CameraEvent)
    (ev : CameraEvent) :
    received query (evs ++ [ev]) = received query evs ++ [⟨ev, query evs.length⟩] := by
  simp [received, List.zipIdx_append]

theorem onRecord_bytes (e : Bpf.CameraEvent) (kill : KillResult) :
    Detect.onRecord ⟨e.bytes, kill⟩ =
      match Detect.delivered (ofKernel e) kill with
      | some ev => .sent ev
      | none => .skipped :=
  Detect.onRecord_encode (ofKernel e) kill

/-- The loop never fails on a record of the kernel. -/
theorem readLoop_records (kill : Nat → KillResult) (es : List Bpf.CameraEvent) :
    Detect.readLoop.state none (records kill es) = none := by
  induction es using List.reverseRecOn with
  | nil => rfl
  | append_singleton es e ih =>
    rw [records_snoc, Mealy.state_snoc, ih]
    unfold Detect.readLoop
    dsimp only
    rw [onRecord_bytes]
    cases Detect.delivered (ofKernel e) (kill es.length) <;> rfl

theorem sent_snoc (kill : Nat → KillResult) (es : List Bpf.CameraEvent) (e : Bpf.CameraEvent) :
    sent kill (es ++ [e]) =
      sent kill es ++ (Detect.delivered (ofKernel e) (kill es.length)).toList := by
  unfold sent
  rw [records_snoc, Mealy.out_snoc, readLoop_records]
  congr 1
  unfold Detect.readLoop
  dsimp only
  rw [onRecord_bytes]
  cases Detect.delivered (ofKernel e) (kill es.length) <;> rfl

end Pipeline
