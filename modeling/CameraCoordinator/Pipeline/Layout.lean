import CameraCoordinator.Pipeline.Records

/-!
# Records, names and keys

A record of the ring buffer is laid out by `emit_event` and read back by the detector's loop; a key
of `streaming_pid` is laid out by the helpers of the program. `layout_agrees`: what is read back is
what was emitted, the name truncated, whatever the slot of the ring buffer held before, and two
names have the same key exactly if they are read back as the same device.
-/

set_option autoImplicit false

namespace Pipeline

/-- What the read loop has decoded of a record at its liveness check. -/
structure Decoded where
  eventType : UInt32
  source : UInt32
  pid : UInt32
  devName : GoString
  deriving DecidableEq

/-- `binary.Read`, and the name cut at its first NUL. -/
def decode (rawSample : List UInt8) : Except GoString Decoded :=
  (Detect.binaryRead rawSample).map fun ev =>
    ⟨ev.eventType, ev.source, ev.pid, byteSliceToString ev.name.toList⟩

/-- The device name decoded from a record. -/
def decodedName (e : Bpf.CameraEvent) : Except GoString GoString :=
  (decode e.bytes).map (·.devName)

theorem decode_bytes (e : Bpf.CameraEvent) :
    decode e.bytes = .ok ⟨e.eventType, e.source, e.pid, e.device⟩ := by
  have hread : Detect.binaryRead e.bytes = .ok (ofKernel e) := Detect.binaryRead_encode (ofKernel e)
  unfold decode
  rw [hread]
  rfl

theorem decodedName_eq (e : Bpf.CameraEvent) : decodedName e = .ok e.device := by
  unfold decodedName
  rw [decode_bytes]
  rfl

/-- The one record of `emit_event` in a slot. -/
theorem emitEvent_some (slot : Bpf.CameraEvent) (n : CStr) (type source pid : UInt32) :
    ∃ e, Bpf.emitEvent (some slot) n type source pid = [e] ∧
      e.eventType = type ∧ e.source = source ∧ e.pid = pid ∧ e.device = n.bytes.take 31 :=
  ⟨_, rfl, rfl, rfl, rfl, CStr.cut_readStr (n := 31) _ n⟩

/-- **Records and keys agree on the device.** A record is decoded to its type, source, pid and the
first 31 bytes of its name, whatever its slot held, and two names give the same key exactly if the
device names decoded from their records, in any slots, are the same. -/
theorem layout_agrees :
    (∀ (slot : Bpf.CameraEvent) (n : CStr) (type source pid : UInt32),
      (Bpf.emitEvent (some slot) n type source pid).map (fun e => decode e.bytes) =
        [.ok ⟨type, source, pid, n.bytes.take 31⟩]) ∧
    (∀ (slot slot' : Bpf.CameraEvent) (n n' : CStr) (type type' source source' pid pid' : UInt32),
      Bpf.deviceNameKey n = Bpf.deviceNameKey n' ↔
        (Bpf.emitEvent (some slot) n type source pid).map decodedName =
          (Bpf.emitEvent (some slot') n' type' source' pid').map decodedName) := by
  refine ⟨fun slot n type source pid => ?_,
    fun slot slot' n n' type type' source source' pid pid' => ?_⟩
  · obtain ⟨e, he, rfl, rfl, rfl, hd⟩ := emitEvent_some slot n type source pid
    rw [he, List.map_singleton, decode_bytes, hd]
  · obtain ⟨e, he, -, -, -, hd⟩ := emitEvent_some slot n type source pid
    obtain ⟨e', he', -, -, -, hd'⟩ := emitEvent_some slot' n' type' source' pid'
    rw [he, he', List.map_singleton, List.map_singleton, decodedName_eq, decodedName_eq, hd, hd',
      Bpf.deviceNameKey_inj]
    simp

end Pipeline
