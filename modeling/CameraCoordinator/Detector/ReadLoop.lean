import CameraCoordinator.Event
import CameraCoordinator.Lib.Mealy

/-!
# The detector's read loop

The goroutine of `EBPFVb2IoctlStreamDetector.Run` on the samples it reads from the ring buffer.
`Detect.onRecord` is the body of the loop after a successful `ReadInto`: it decodes the sample, asks
`unix.Kill(pid, 0)` about the process of a record that comes from `vb2_fop_release`, and sends,
skips or fails. `Detect.readLoop` is the loop on a context that is not cancelled.

`onRecord_encode`: the bytes of a record are sent with the name cut at its first NUL, unless the
record is a release and its process is not known to be gone.
-/

set_option autoImplicit false

namespace Detect

/-- `ebpfVb2IoctlDetectorName`. -/
def ebpfVb2IoctlDetectorName : GoString := goString "EBPFVb2IoctlStreamDetector"

/-- `camera_detector_vb2_ioctlCameraEvent`. -/
structure Vb2IoctlCameraEvent where
  eventType : UInt32
  source : UInt32
  pid : UInt32
  name : Vector UInt8 32
  deriving DecidableEq, Repr

/-- The value of `unix.Kill(pid, 0)`: nil, `ESRCH` or another error. -/
inductive KillResult
  | alive
  | esrch
  | other
  deriving DecidableEq, Repr

/-- A sample, and the answer to the `unix.Kill` its handling may call. -/
structure Record where
  rawSample : List UInt8
  kill : KillResult

/-- `binary.Read` into the event, on a little-endian machine: bytes past the event are ignored. -/
def binaryRead (rawSample : List UInt8) : Except GoString Vb2IoctlCameraEvent :=
  if h : 44 ≤ rawSample.length then
    .ok {
      eventType := ofLe32 rawSample
      source := ofLe32 (rawSample.drop 4)
      pid := ofLe32 (rawSample.drop 8)
      name := ⟨((rawSample.drop 12).take 32).toArray, by simp; omega⟩ }
  else if rawSample = [] then .error (goString "EOF")
  else .error (goString "unexpected EOF")

/-- What the loop does with a sample. -/
inductive Handled
  | sent (ev : CameraEvent)
  | skipped
  | failed (err : GoString)
  deriving DecidableEq

/-- The body of the loop after a successful `ReadInto`. -/
def onRecord (rec : Record) : Handled :=
  match binaryRead rec.rawSample with
  | .error err => .failed (goString ("decode camera event (len=" ++ toString rec.rawSample.length ++
      "): ") ++ err)
  | .ok ev =>
    let devName := byteSliceToString ev.name.toList
    let event : CameraEvent := {
      detector := ebpfVb2IoctlDetectorName
      type := ev.eventType
      videoDevice := devName
      card := []
      busInfo := [] }
    if ev.source = 2 then
      match rec.kill with
      | .alive => .skipped
      | .esrch => .sent event
      | .other => .skipped
    else .sent event

/-- The loop, until it fails: the state is the error it has failed with. -/
def readLoop : Mealy (Option GoString) Record CameraEvent where
  step
    | some err, _ => (some err, [])
    | none, rec =>
      match onRecord rec with
      | .sent ev => (none, [ev])
      | .skipped => (none, [])
      | .failed err => (some err, [])

/-! ## Records as the kernel writes them -/

/-- The memory of the event as a C struct. -/
def Vb2IoctlCameraEvent.encode (e : Vb2IoctlCameraEvent) : List UInt8 :=
  le32 e.eventType ++ (le32 e.source ++ (le32 e.pid ++ e.name.toList))

/-- What is decoded from the memory of an event is the event. -/
theorem binaryRead_encode (e : Vb2IoctlCameraEvent) : binaryRead e.encode = .ok e := by
  have hlen : 44 ≤ e.encode.length := by simp [Vb2IoctlCameraEvent.encode]
  have hsource : ofLe32 (e.encode.drop 4) = e.source := ofLe32_le32 e.source _
  have hpid : ofLe32 (e.encode.drop 8) = e.pid := ofLe32_le32 e.pid _
  have hname : ((e.encode.drop 12).take 32) = e.name.toList := by
    show e.name.toList.take 32 = e.name.toList
    exact List.take_of_length_le (by simp)
  unfold binaryRead
  rw [dif_pos hlen]
  congr 1
  obtain ⟨eventType, source, pid, name⟩ := e
  congr 1
  · exact ofLe32_le32 eventType _
  · apply Vector.toList_inj.1
    exact hname

/-- The event sent for a record, if any. -/
def delivered (e : Vb2IoctlCameraEvent) (kill : KillResult) : Option CameraEvent :=
  if e.source = 2 ∧ kill ≠ .esrch then none
  else some {
    detector := ebpfVb2IoctlDetectorName
    type := e.eventType
    videoDevice := cut e.name.toList
    card := []
    busInfo := [] }

theorem onRecord_encode (e : Vb2IoctlCameraEvent) (kill : KillResult) :
    onRecord ⟨e.encode, kill⟩ =
      match delivered e kill with
      | some ev => .sent ev
      | none => .skipped := by
  unfold onRecord delivered
  rw [binaryRead_encode]
  dsimp only
  by_cases hs : e.source = 2
  · cases kill <;> simp [hs]
  · simp [hs]

end Detect
