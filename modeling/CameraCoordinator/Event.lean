import CameraCoordinator.Lib.Bytes

/-!
# Camera events and V4L2 capabilities

The types that travel between detectors, coordinator and notifiers (`camera_event.go`), and the
answer of the `VIDIOC_QUERYCAP` query (`v4l2_camera_discoverer.go`). A Go string is its bytes.
-/

set_option autoImplicit false

/-- A Go `string`. -/
abbrev GoString := List UInt8

/-- The value of a string literal of the source. -/
def goString (s : String) : GoString := s.toUTF8.data.toList

/-- `unix.ByteSliceToString`: what is before the first NUL. -/
def byteSliceToString (s : List UInt8) : GoString := cut s

@[simp] theorem byteSliceToString_eq (s : List UInt8) : byteSliceToString s = cut s := rfl

/-! ## Events -/

abbrev CameraEventType := UInt32

def cameraEventRecordingOn : CameraEventType := 1
def cameraEventRecordingOff : CameraEventType := 2

structure CameraEvent where
  detector : GoString
  type : CameraEventType
  videoDevice : GoString
  card : GoString
  busInfo : GoString
  deriving DecidableEq, Repr

/-- An event of the kind the coordinator's tests send. -/
def CameraEvent.test (type : CameraEventType) : CameraEvent where
  detector := goString "test"
  type := type
  videoDevice := goString "video0"
  card := []
  busInfo := []

/-! ## Capabilities -/

abbrev V4L2CapabilityCapabilities := UInt32

def v4l2CapVideoCapture : V4L2CapabilityCapabilities := 0x00000001
def v4l2CapDeviceCaps : V4L2CapabilityCapabilities := 0x80000000

structure V4L2Capability where
  driver : Vector UInt8 16
  card : Vector UInt8 32
  busInfo : Vector UInt8 32
  version : UInt32
  capabilities : UInt32
  deviceCaps : UInt32
  reserved : Vector UInt32 3
  deriving DecidableEq, Repr

namespace V4L2Capability

def cardString (c : V4L2Capability) : GoString := byteSliceToString c.card.toList

def busInfoString (c : V4L2Capability) : GoString := byteSliceToString c.busInfo.toList

/-- `HasCapabilities`: no capability asked for is answered `false`, and a device with
`V4L2CapDeviceCaps` is asked for its device capabilities. -/
def hasCapabilities (c : V4L2Capability) (caps : List V4L2CapabilityCapabilities) : Bool :=
  if caps.length = 0 then false
  else
    let effectiveCaps :=
      if c.capabilities &&& v4l2CapDeviceCaps ≠ 0 then c.deviceCaps else c.capabilities
    caps.all fun cap => !(effectiveCaps &&& cap == 0)

/-- What it answers for `V4L2CapVideoCapture`: the lowest bit of the device capabilities if the
highest bit of the capabilities says that there are any, else of the capabilities. -/
theorem hasCapabilities_videoCapture (c : V4L2Capability) :
    c.hasCapabilities [v4l2CapVideoCapture] =
      (if c.capabilities.toBitVec.getLsbD 31 then c.deviceCaps else c.capabilities).toBitVec.getLsbD
        0 := by
  have hcapture : ∀ x : UInt32, (!(x &&& v4l2CapVideoCapture == 0)) = x.toBitVec.getLsbD 0 := by
    intro x
    have hiff := and_twoPow_eq_zero_iff (x := x) (m := v4l2CapVideoCapture) (i := 0)
      (by decide) (by decide)
    rw [Bool.eq_iff_iff, Bool.not_eq_true', beq_eq_false_iff_ne, Ne, hiff, Bool.not_eq_false]
  have hdeviceCaps := and_twoPow_eq_zero_iff (x := c.capabilities) (m := v4l2CapDeviceCaps)
    (i := 31) (by decide) (by decide)
  unfold hasCapabilities
  rw [if_neg (by simp)]
  dsimp only
  rw [List.all_cons, List.all_nil, Bool.and_true, hcapture]
  simp only [ne_eq, hdeviceCaps, Bool.not_eq_false]

/-- A plain capture device, the stub of the coordinator's tests. -/
def capture : V4L2Capability where
  driver := .replicate 16 0
  card := .replicate 32 0
  busInfo := .replicate 32 0
  version := 0
  capabilities := v4l2CapVideoCapture
  deviceCaps := 0
  reserved := .replicate 3 0

end V4L2Capability
