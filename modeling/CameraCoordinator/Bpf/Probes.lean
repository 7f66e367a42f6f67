import CameraCoordinator.Lib.BoundedMap
import CameraCoordinator.Lib.Bytes
import CameraCoordinator.Lib.Mealy

/-!
# The BPF program

`bpf/camera_detector_vb2_ioctl.bpf.c`: three kprobes, the map `streaming_pid` and the ring buffer.
A `Firing` is one call of a probe with all it gets from the kernel: the `struct file` of its first
argument, `bpf_get_current_pid_tgid`, and the slot `bpf_ringbuf_reserve` hands out, whose content is
whatever the ring buffer held there before. `Bpf.run` executes firings one after another; its state
is `streaming_pid`, its outputs are the events submitted to the ring buffer.

`step_of_key` is what a firing on a device does, once and for all; every invariant of the program is
derived from it.
-/

set_option autoImplicit false

namespace Bpf

/-! ## Types -/

def cameraEventTypeStreamOn : UInt32 := 1
def cameraEventTypeStreamOff : UInt32 := 2

def cameraEventSourceIoctl : UInt32 := 1
def cameraEventSourceFopRelease : UInt32 := 2

/-- `struct camera_event`. -/
structure CameraEvent where
  eventType : UInt32
  source : UInt32
  pid : UInt32
  name : Vector UInt8 32
  deriving DecidableEq, Repr

/-- The memory of a `struct camera_event`, which has no padding. -/
def CameraEvent.bytes (e : CameraEvent) : List UInt8 :=
  le32 e.eventType ++ (le32 e.source ++ (le32 e.pid ++ e.name.toList))

/-- `struct device_name_key`, which the program only ever fills by copying a name over zeros. -/
@[ext] structure DeviceNameKey where
  name : Vector UInt8 32
  filled : ∃ n : CStr, name = n.readStr (.replicate 32 0)
  deriving DecidableEq

/-- `struct device_name_key key = {}` and the `bpf_probe_read_kernel_str` into it. -/
def deviceNameKey (namePtr : CStr) : DeviceNameKey := ⟨namePtr.readStr (.replicate 32 0), _, rfl⟩

/-- The map `streaming_pid`. -/
abbrev StreamingPid := BoundedMap DeviceNameKey UInt32 64

/-- `struct file`, of which the dentry's name is read; the pointer to it may be NULL. -/
structure File where
  name : Option CStr

inductive Probe
  | streamon
  | streamoff
  | fopRelease
  deriving DecidableEq, Repr

/-- One call of a probe. -/
structure Firing where
  probe : Probe
  /-- `PT_REGS_PARM1(ctx)`, may be NULL. -/
  file : Option File
  /-- `bpf_get_current_pid_tgid()`. -/
  pidTgid : UInt64
  /-- The slot of `bpf_ringbuf_reserve`, `none` if it returns NULL. -/
  reserve : Option CameraEvent

namespace Firing

/-- `BPF_CORE_READ(file, f_path.dentry, d_name.name)`, past both NULL checks. -/
def namePtr (f : Firing) : Option CStr := f.file.bind (·.name)

/-- `bpf_get_current_pid_tgid() >> 32`. -/
def pid (f : Firing) : UInt32 := (f.pidTgid >>> 32).toUInt32

end Firing

/-! ## Helpers -/

/-- `emit_event`: the events submitted. -/
def emitEvent (reserve : Option CameraEvent) (namePtr : CStr)
    (cameraEventType source pid : UInt32) : List CameraEvent :=
  match reserve with
  | none => []
  | some event =>
    let event := { event with eventType := cameraEventType }
    let event := { event with source := source }
    let event := { event with pid := pid }
    -- the slot is not zeroed: what follows the copied name stays
    let event := { event with name := namePtr.readStr (n := 31) event.name }
    [event]

/-- `record_streaming_pid`: the result of `bpf_map_update_elem` is ignored. -/
def recordStreamingPid (streamingPid : StreamingPid) (namePtr : CStr) (pid : UInt32) :
    StreamingPid :=
  streamingPid.set (deviceNameKey namePtr) pid

/-- `clear_streaming_pid`. -/
def clearStreamingPid (streamingPid : StreamingPid) (namePtr : CStr) : StreamingPid :=
  streamingPid.delete (deviceNameKey namePtr)

/-- `check_streaming_pid_and_clear`. -/
def checkStreamingPidAndClear (streamingPid : StreamingPid) (namePtr : CStr) (pid : UInt32) :
    StreamingPid × Bool :=
  match streamingPid.lookup (deviceNameKey namePtr) with
  | none => (streamingPid, false)
  | some storedPid =>
    if storedPid ≠ pid then (streamingPid, false)
    else (streamingPid.delete (deviceNameKey namePtr), true)

/-! ## Probes -/

def kprobeVb2IoctlStreamon (streamingPid : StreamingPid) (f : Firing) :
    StreamingPid × List CameraEvent :=
  match f.namePtr with
  | none => (streamingPid, [])
  | some namePtr =>
    (recordStreamingPid streamingPid namePtr f.pid,
      emitEvent f.reserve namePtr cameraEventTypeStreamOn cameraEventSourceIoctl f.pid)

def kprobeVb2IoctlStreamoff (streamingPid : StreamingPid) (f : Firing) :
    StreamingPid × List CameraEvent :=
  match f.namePtr with
  | none => (streamingPid, [])
  | some namePtr =>
    (clearStreamingPid streamingPid namePtr,
      emitEvent f.reserve namePtr cameraEventTypeStreamOff cameraEventSourceIoctl f.pid)

def kprobeVb2FopRelease (streamingPid : StreamingPid) (f : Firing) :
    StreamingPid × List CameraEvent :=
  match f.namePtr with
  | none => (streamingPid, [])
  | some namePtr =>
    let (streamingPid, matched) := checkStreamingPidAndClear streamingPid namePtr f.pid
    if !matched then (streamingPid, [])
    else (streamingPid, emitEvent f.reserve namePtr cameraEventTypeStreamOff
      cameraEventSourceFopRelease f.pid)

/-- The program, one firing after another. -/
def run : Mealy StreamingPid Firing CameraEvent where
  step streamingPid f :=
    match f.probe with
    | .streamon => kprobeVb2IoctlStreamon streamingPid f
    | .streamoff => kprobeVb2IoctlStreamoff streamingPid f
    | .fopRelease => kprobeVb2FopRelease streamingPid f

/-- `streaming_pid` after the firings. -/
def streamingPid (t : List Firing) : StreamingPid := run.state ∅ t

/-- The events submitted by the firings, in order. -/
def submitted (t : List Firing) : List CameraEvent := run.out ∅ t

/-- The events the firing `f` submits after the firings `t`. -/
def submits (t : List Firing) (f : Firing) : List CameraEvent := (run.step (streamingPid t) f).2

@[simp] theorem streamingPid_nil : streamingPid [] = ∅ := rfl

@[simp] theorem submitted_nil : submitted [] = [] := rfl

theorem streamingPid_snoc (t : List Firing) (f : Firing) :
    streamingPid (t ++ [f]) = (run.step (streamingPid t) f).1 := run.state_snoc ∅ t f

theorem submitted_snoc (t : List Firing) (f : Firing) :
    submitted (t ++ [f]) = submitted t ++ submits t f := run.out_snoc ∅ t f

/-! ## Names and keys -/

/-- The device an event is about. -/
def CameraEvent.device (e : CameraEvent) : List UInt8 := cut e.name.toList

/-- The device a key stands for. -/
def DeviceNameKey.device (k : DeviceNameKey) : List UInt8 := cut k.name.toList

/-- The key of the device a firing is about, if both pointers are there. -/
def Firing.key (f : Firing) : Option DeviceNameKey := f.namePtr.map deviceNameKey

theorem device_deviceNameKey (n : CStr) : (deviceNameKey n).device = n.bytes.take 31 :=
  CStr.cut_readStr (n := 31) _ n

theorem deviceNameKey_inj {n n' : CStr} :
    deviceNameKey n = deviceNameKey n' ↔ n.bytes.take 31 = n'.bytes.take 31 := by
  rw [DeviceNameKey.ext_iff]
  exact CStr.readStr_inj (n := 31)

/-- Two keys are equal exactly if they stand for the same device. -/
theorem device_inj {k k' : DeviceNameKey} : k.device = k'.device ↔ k = k' := by
  refine ⟨fun h => ?_, fun h => h ▸ rfl⟩
  obtain ⟨_, n, rfl⟩ := k
  obtain ⟨_, n', rfl⟩ := k'
  change (deviceNameKey n).device = (deviceNameKey n').device at h
  change deviceNameKey n = deviceNameKey n'
  rwa [device_deviceNameKey, device_deviceNameKey, ← deviceNameKey_inj] at h

/-! ## One firing -/

/-- `e` is an event of the given type, source and pid about the device of `k`. -/
structure Emitted (e : CameraEvent) (k : DeviceNameKey) (type source pid : UInt32) : Prop where
  eventType : e.eventType = type
  source : e.source = source
  pid : e.pid = pid
  device : e.device = k.device

/-- `es` is what `f` submits when it emits: nothing if it gets no slot, else one event. -/
def Emits (f : Firing) (k : DeviceNameKey) (type source : UInt32) (es : List CameraEvent) : Prop :=
  (f.reserve = none ∧ es = []) ∨
    ∃ e, f.reserve.isSome ∧ es = [e] ∧ Emitted e k type source f.pid

/-- `emit_event` submits its event whatever the slot held. -/
theorem emits_emitEvent (f : Firing) (n : CStr) (type source : UInt32) :
    Emits f (deviceNameKey n) type source (emitEvent f.reserve n type source f.pid) := by
  cases hr : f.reserve with
  | none => exact .inl ⟨hr, rfl⟩
  | some slot =>
    refine .inr ⟨_, by simp [hr], rfl, rfl, rfl, rfl, ?_⟩
    rw [device_deviceNameKey]
    exact CStr.cut_readStr (n := 31) _ n

theorem Emits.of_isSome {f : Firing} {k : DeviceNameKey} {type source : UInt32}
    {es : List CameraEvent} (h : Emits f k type source es) (hres : f.reserve.isSome) :
    ∃ e, es = [e] ∧ Emitted e k type source f.pid := by
  rcases h with ⟨hr, -⟩ | ⟨e, -, he⟩
  · simp [hr] at hres
  · exact ⟨e, he⟩

theorem Emits.of_mem {f : Firing} {k : DeviceNameKey} {type source : UInt32}
    {es : List CameraEvent} (h : Emits f k type source es) {e : CameraEvent} (he : e ∈ es) :
    Emitted e k type source f.pid := by
  rcases h with ⟨-, rfl⟩ | ⟨e', -, rfl, he'⟩
  · cases he
  · rwa [List.mem_singleton.1 he]

theorem checkStreamingPidAndClear_eq (m : StreamingPid) (n : CStr) (pid : UInt32) :
    checkStreamingPidAndClear m n pid =
      if m.lookup (deviceNameKey n) = some pid then (m.delete (deviceNameKey n), true)
      else (m, false) := by
  unfold checkStreamingPidAndClear
  cases m.lookup (deviceNameKey n) with
  | none => rfl
  | some storedPid => by_cases hpid : storedPid = pid <;> simp [hpid]

/-- A firing with a NULL pointer does nothing. -/
theorem step_of_key_none {f : Firing} (m : StreamingPid) (hk : f.key = none) :
    run.step m f = (m, []) := by
  have hn : f.namePtr = none := by simpa [Firing.key] using hk
  cases hp : f.probe <;>
    simp [run, hp, kprobeVb2IoctlStreamon, kprobeVb2IoctlStreamoff, kprobeVb2FopRelease, hn]

/-- **What a firing on a device does**: a streamon stores its pid, a streamoff and a matching
release delete the entry, and a release that does not match does nothing. -/
theorem step_of_key {f : Firing} {k : DeviceNameKey} (m : StreamingPid) (hk : f.key = some k) :
    (f.probe = .streamon ∧ (run.step m f).1 = m.set k f.pid ∧
      Emits f k cameraEventTypeStreamOn cameraEventSourceIoctl (run.step m f).2) ∨
    (f.probe = .streamoff ∧ (run.step m f).1 = m.delete k ∧
      Emits f k cameraEventTypeStreamOff cameraEventSourceIoctl (run.step m f).2) ∨
    (f.probe = .fopRelease ∧ m.lookup k = some f.pid ∧ (run.step m f).1 = m.delete k ∧
      Emits f k cameraEventTypeStreamOff cameraEventSourceFopRelease (run.step m f).2) ∨
    (f.probe = .fopRelease ∧ m.lookup k ≠ some f.pid ∧ run.step m f = (m, [])) := by
  obtain ⟨n, hn, rfl⟩ : ∃ n, f.namePtr = some n ∧ deviceNameKey n = k := by
    simpa [Firing.key] using hk
  cases hp : f.probe with
  | streamon =>
    have hs : run.step m f = (m.set (deviceNameKey n) f.pid, emitEvent f.reserve n
        cameraEventTypeStreamOn cameraEventSourceIoctl f.pid) := by
      simp [run, hp, kprobeVb2IoctlStreamon, hn, recordStreamingPid]
    rw [hs]
    exact .inl ⟨rfl, rfl, emits_emitEvent f n _ _⟩
  | streamoff =>
    have hs : run.step m f = (m.delete (deviceNameKey n), emitEvent f.reserve n
        cameraEventTypeStreamOff cameraEventSourceIoctl f.pid) := by
      simp [run, hp, kprobeVb2IoctlStreamoff, hn, clearStreamingPid]
    rw [hs]
    exact .inr (.inl ⟨rfl, rfl, emits_emitEvent f n _ _⟩)
  | fopRelease =>
    by_cases hl : m.lookup (deviceNameKey n) = some f.pid
    · have hs : run.step m f = (m.delete (deviceNameKey n), emitEvent f.reserve n
          cameraEventTypeStreamOff cameraEventSourceFopRelease f.pid) := by
        simp [run, hp, kprobeVb2FopRelease, hn, checkStreamingPidAndClear_eq, hl]
      rw [hs]
      exact .inr (.inr (.inl ⟨rfl, hl, rfl, emits_emitEvent f n _ _⟩))
    · have hs : run.step m f = (m, []) := by
        simp [run, hp, kprobeVb2FopRelease, hn, checkStreamingPidAndClear_eq, hl]
      exact .inr (.inr (.inr ⟨rfl, hl, hs⟩))

theorem step_streamoff {f : Firing} {k : DeviceNameKey} (m : StreamingPid)
    (hp : f.probe = .streamoff) (hk : f.key = some k) : (run.step m f).1 = m.delete k ∧
      Emits f k cameraEventTypeStreamOff cameraEventSourceIoctl (run.step m f).2 := by
  simpa [hp] using step_of_key m hk

theorem step_release {f : Firing} {k : DeviceNameKey} (m : StreamingPid)
    (hp : f.probe = .fopRelease) (hk : f.key = some k) :
    (m.lookup k = some f.pid ∧ (run.step m f).1 = m.delete k ∧
      Emits f k cameraEventTypeStreamOff cameraEventSourceFopRelease (run.step m f).2) ∨
    (m.lookup k ≠ some f.pid ∧ run.step m f = (m, [])) := by
  simpa [hp] using step_of_key m hk

/-- A firing leaves the entries of the other devices alone. -/
theorem lookup_step_ne {m : StreamingPid} {f : Firing} {k : DeviceNameKey} (hk : f.key ≠ some k) :
    (run.step m f).1.lookup k = m.lookup k := by
  cases hf : f.key with
  | none => rw [step_of_key_none m hf]
  | some k' =>
    have hne : k ≠ k' := fun e => hk (e ▸ hf)
    rcases step_of_key m hf with ⟨-, hs, -⟩ | ⟨-, hs, -⟩ | ⟨-, -, hs, -⟩ | ⟨-, -, hs⟩ <;>
      simp [hs, BoundedMap.lookup_set, BoundedMap.lookup_delete, hne]

/-- A firing submits events about its own device only. -/
theorem device_of_mem_step {m : StreamingPid} {f : Firing} {e : CameraEvent}
    (he : e ∈ (run.step m f).2) : ∃ k, f.key = some k ∧ e.device = k.device := by
  cases hf : f.key with
  | none => simp [step_of_key_none m hf] at he
  | some k =>
    refine ⟨k, rfl, ?_⟩
    rcases step_of_key m hf with ⟨-, -, hs⟩ | ⟨-, -, hs⟩ | ⟨-, -, -, hs⟩ | ⟨-, -, hs⟩
    · exact (hs.of_mem he).device
    · exact (hs.of_mem he).device
    · exact (hs.of_mem he).device
    · simp [hs] at he

theorem device_ne_of_mem_step {m : StreamingPid} {f : Firing} {e : CameraEvent} {k : DeviceNameKey}
    (hk : f.key ≠ some k) (he : e ∈ (run.step m f).2) : e.device ≠ k.device := by
  obtain ⟨k', hk', hd⟩ := device_of_mem_step he
  rw [hd]
  exact fun h => hk (device_inj.1 h ▸ hk')

theorem type_of_mem_step (m : StreamingPid) (f : Firing) : ∀ e ∈ (run.step m f).2,
    (e.eventType = cameraEventTypeStreamOn ∧ e.source = cameraEventSourceIoctl) ∨
      e.eventType = cameraEventTypeStreamOff := by
  intro e he
  cases hf : f.key with
  | none => simp [step_of_key_none m hf] at he
  | some k =>
    rcases step_of_key m hf with ⟨-, -, hs⟩ | ⟨-, -, hs⟩ | ⟨-, -, -, hs⟩ | ⟨-, -, hs⟩
    · exact .inl ⟨(hs.of_mem he).eventType, (hs.of_mem he).source⟩
    · exact .inr (hs.of_mem he).eventType
    · exact .inr (hs.of_mem he).eventType
    · simp [hs] at he

/-- The submitted events are On or Off, and an On is from an ioctl. -/
theorem type_of_mem_submitted {t : List Firing} {e : CameraEvent} (he : e ∈ submitted t) :
    (e.eventType = cameraEventTypeStreamOn ∧ e.source = cameraEventSourceIoctl) ∨
      e.eventType = cameraEventTypeStreamOff :=
  Mealy.forall_mem_out type_of_mem_step e he

theorem length_step_le (m : StreamingPid) (f : Firing) : (run.step m f).2.length ≤ 1 := by
  cases hf : f.key with
  | none => simp [step_of_key_none m hf]
  | some k =>
    have hle : ∀ {type source}, Emits f k type source (run.step m f).2 →
        (run.step m f).2.length ≤ 1 := by
      rintro type source (⟨-, he⟩ | ⟨e, -, he, -⟩) <;> simp [he]
    rcases step_of_key m hf with ⟨-, -, hs⟩ | ⟨-, -, hs⟩ | ⟨-, -, -, hs⟩ | ⟨-, -, hs⟩
    · exact hle hs
    · exact hle hs
    · exact hle hs
    · simp [hs]

end Bpf
