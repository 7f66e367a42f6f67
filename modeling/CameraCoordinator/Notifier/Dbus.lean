import CameraCoordinator.Event

/-!
# The D-Bus notifier

What `DBusNotifier.Run` emits for an event, once it is connected: a signal whose body is one struct
(`notifier_dbus.go`). A `Store` is `dbus.Store`, of which only what a receiver uses of it is known:
it copies the fields of a struct to a body, or refuses them.
-/

set_option autoImplicit false

namespace Dbus

/-- A value in a message: a struct arrives as the list of its fields. -/
inductive Value
  | string (s : GoString)
  | uint32 (n : UInt32)
  | struct (fields : List Value)
  | other (text : GoString)

/-- A signal, of which the receiver reads the body. -/
structure Signal where
  body : List Value

structure DBusNotifierSignalBody where
  detector : GoString
  type : UInt32
  videoDevice : GoString
  card : GoString
  busInfo : GoString
  deriving DecidableEq, Repr

/-- The struct on the bus. -/
def DBusNotifierSignalBody.fields (body : DBusNotifierSignalBody) : List Value :=
  [.string body.detector, .uint32 body.type, .string body.videoDevice, .string body.card,
    .string body.busInfo]

/-- The body of the signal for an event. -/
def signalBody (event : CameraEvent) : DBusNotifierSignalBody where
  detector := event.detector
  type := event.type
  videoDevice := event.videoDevice
  card := event.card
  busInfo := event.busInfo

/-- `conn.Emit` of the body for an event. -/
def emit (event : CameraEvent) : Signal := ⟨[.struct (signalBody event).fields]⟩

/-- `dbus.Store` into the fields of a body, in their order. -/
abbrev Store := List Value → Except GoString DBusNotifierSignalBody

/-- It gives back a body that was sent as a struct. -/
def Store.Faithful (store : Store) : Prop := ∀ body, store body.fields = .ok body

/-- A `Store` that takes exactly the fields of bodies. -/
def storeFields : Store
  | [.string detector, .uint32 type, .string videoDevice, .string card, .string busInfo] =>
    .ok ⟨detector, type, videoDevice, card, busInfo⟩
  | _ => .error (goString "dbus.Store: type mismatch")

theorem storeFields_faithful : storeFields.Faithful := fun _ => rfl

end Dbus
