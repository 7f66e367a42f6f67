import CameraCoordinator.Lib.GoMap
import CameraCoordinator.Lib.Mealy
import CameraCoordinator.Notifier.Dbus

/-!
# The tray application

`autolight/main.go`: the state of the `App` with the texts its tray shows, the handlers of signals
and clicks, and the commands they send to the lights. `SetProps` and the calls of the light driver
succeed, and what `lib.ListDevices` returns is an argument of the handlers that call it.

`handleSignal` is `receiveSignal`, which updates the set of cameras and takes no lock, and then at
most one critical section (`Critical.run`). `step_of_onOff` says what it does by what the signal is:
an On of a device, an Off, or nothing the application knows (`onOff`).
-/

set_option autoImplicit false

namespace Autolight

open Dbus (Signal Store DBusNotifierSignalBody)

/-! ## Texts -/

def disableLightControlLabel := "Disable auto light control"
def enableLightControlLabel := "Enable auto light control"

def cameraStatusOffLabel := "Camera: Off"
def cameraStatusOnLabel := "Camera: On"
def cameraStatusUnknownLabel := "Camera: Unknown"

def toggleLightOnLabel := "Turn Light On"
def toggleLightOffLabel := "Turn Light Off"

def brightnessPresets : List Nat := [0, 25, 50, 75, 100]
def colorTempPresets : List Nat := [2700, 3500, 4500, 5500, 6500]

/-! ## The application -/

/-- `cameraUnknownIcons`, `cameraOnIcons`, `cameraOffIcons`. -/
inductive Icons
  | cameraUnknown
  | cameraOn
  | cameraOff
  deriving DecidableEq, Repr

structure App where
  disabled : Bool
  activeCameras : GoMap GoString Unit
  trayIcons : Icons
  trayToolTip : String
  /-- The labels of the menu items. -/
  cameraStatusItem : String
  toggleLightItem : String
  enableItem : String
  lightOn : Bool

/-- `NewApp`. -/
def newApp : App where
  disabled := false
  activeCameras := ∅
  trayIcons := .cameraUnknown
  trayToolTip := "Camera state is unknown. Turn a camera on or off to set it."
  cameraStatusItem := cameraStatusUnknownLabel
  toggleLightItem := toggleLightOnLabel
  enableItem := disableLightControlLabel
  lightOn := false

/-- A light, as `lib.ListDevices` returns it. -/
structure Device where
  index : Int
  deriving DecidableEq, Repr

/-- A call to a light. -/
inductive Command
  | lightOn (index : Int)
  | lightOff (index : Int)
  | lightBrightness (index : Int) (level : Nat)
  | lightTemperature (index : Int) (temp : UInt16)
  deriving DecidableEq, Repr

/-- The call that turns a light on or off. -/
def light (on : Bool) (d : Device) : Command := if on then .lightOn d.index else .lightOff d.index

/-- A call to each device, after the check that there is one. -/
def eachDevice (devices : List Device) (call : Device → Command) : List Command :=
  if devices.length = 0 then [] else devices.map call

def setLights (on : Bool) (devices : List Device) (a : App) : App × List Command :=
  let a := { a with lightOn := on }
  let toggleLabel := if on then toggleLightOffLabel else toggleLightOnLabel
  let a := { a with toggleLightItem := toggleLabel }
  (a, eachDevice devices (light on))

def setBrightness (level : Nat) (devices : List Device) : List Command :=
  eachDevice devices fun d => .lightBrightness d.index level

def setColorTemperature (temp : Nat) (devices : List Device) : List Command :=
  eachDevice devices fun d => .lightTemperature d.index (UInt16.ofNat temp)

/-! ## Clicks -/

inductive Click
  | toggleLight
  | enable
  | brightness (level : Nat)
  | colorTemperature (temp : Nat)
  deriving DecidableEq, Repr

/-- The items of the menu that `NewApp` gives a handler, but for Quit. -/
def menu : List Click := [.enable, .toggleLight] ++ brightnessPresets.map .brightness ++
  colorTempPresets.map .colorTemperature

def onToggleLightClicked (devices : List Device) (a : App) : App × List Command :=
  setLights (!a.lightOn) devices a

def onEnableClicked (a : App) : App × List Command :=
  let a := { a with disabled := !a.disabled }
  let label := if a.disabled then enableLightControlLabel else disableLightControlLabel
  ({ a with enableItem := label }, [])

/-- The handler of a click, which holds `mut`. -/
def Click.run (devices : List Device) : Click → App → App × List Command
  | .toggleLight, a => onToggleLightClicked devices a
  | .enable, a => onEnableClicked a
  | .brightness level, a => (a, setBrightness level devices)
  | .colorTemperature temp, a => (a, setColorTemperature temp devices)

/-! ## Signals -/

/-- `handleCameraOn` and `handleCameraOff`: the tray is set to what the cameras are, and the lights
follow unless light control is disabled. -/
def handleCamera (icons : Icons) (toolTip label : String) (on : Bool) (devices : List Device)
    (a : App) : App × List Command :=
  let a := { a with trayIcons := icons, trayToolTip := toolTip }
  let a := { a with cameraStatusItem := label }
  if !a.disabled then setLights on devices a else (a, [])

def handleCameraOn : List Device → App → App × List Command :=
  handleCamera .cameraOn "Camera is on." cameraStatusOnLabel true

def handleCameraOff : List Device → App → App × List Command :=
  handleCamera .cameraOff "Camera is off." cameraStatusOffLabel false

/-- The critical section a signal leads to. -/
inductive Critical
  | cameraOn
  | cameraOff
  deriving DecidableEq, Repr

/-- It holds `mut`. -/
def Critical.run (devices : List Device) : Critical → App → App × List Command
  | .cameraOn, a => handleCameraOn devices a
  | .cameraOff, a => handleCameraOff devices a

/-- `handleSignal` up to its `switch`: the body, if it can be decoded. -/
def decode (store : Store) (sig : Signal) : Option DBusNotifierSignalBody :=
  match sig.body with
  | [] => none
  | .struct fields :: _ =>
    match store fields with
    | .error _ => none
    | .ok body => some body
  | _ :: _ => none

/-- `handleSignal` without its critical section, and which one follows. -/
def receiveSignal (store : Store) (sig : Signal) (a : App) : App × Option Critical :=
  match decode store sig with
  | none => (a, none)
  | some body =>
    if body.type = cameraEventRecordingOn then
      let wasEmpty := GoMap.len a.activeCameras == 0
      let a := { a with activeCameras := a.activeCameras.insert body.videoDevice () }
      -- called for every camera, to converge a state that got corrupted before
      if wasEmpty then (a, some .cameraOn) else (a, some .cameraOn)
    else if body.type = cameraEventRecordingOff then
      let a := { a with activeCameras := a.activeCameras.erase body.videoDevice }
      if GoMap.len a.activeCameras = 0 then (a, some .cameraOff) else (a, none)
    else (a, none)

def handleSignal (store : Store) (sig : Signal) (devices : List Device) (a : App) :
    App × List Command :=
  match receiveSignal store sig a with
  | (a, none) => (a, [])
  | (a, some critical) => critical.run devices a

/-- A signal, and what `lib.ListDevices` returns while it is handled. -/
structure Handling where
  sig : Signal
  devices : List Device

/-- The handling of signals without clicks. -/
def handler (store : Store) : Mealy App Handling Command where
  step a i := handleSignal store i.sig i.devices a

/-! ## What a signal is -/

/-- What the application takes a signal for: an On (`true`) or an Off of a device, or nothing. -/
def onOff (store : Store) (sig : Signal) : Option (Bool × GoString) :=
  match decode store sig with
  | none => none
  | some body =>
    if body.type = cameraEventRecordingOn then some (true, body.videoDevice)
    else if body.type = cameraEventRecordingOff then some (false, body.videoDevice)
    else none

/-- The set of cameras after an On or an Off of a device. -/
def setCamera (on : Bool) (v : GoString) (cameras : GoMap GoString Unit) : GoMap GoString Unit :=
  if on then cameras.insert v () else cameras.erase v

theorem mem_setCamera {on : Bool} {v v' : GoString} {cameras : GoMap GoString Unit} :
    v' ∈ setCamera on v cameras ↔ if v' = v then on = true else v' ∈ cameras := by
  unfold setCamera
  cases on with
  | true =>
    rw [if_pos rfl, Finmap.mem_insert]
    by_cases hv : v' = v <;> simp [hv]
  | false =>
    rw [if_neg Bool.false_ne_true, Finmap.mem_erase]
    by_cases hv : v' = v <;> simp [hv]

/-- The critical section after an On or an Off: none if the Off leaves other cameras. -/
def criticalOf (on : Bool) (cameras : GoMap GoString Unit) : Option Critical :=
  if on then some .cameraOn else if cameras = ∅ then some .cameraOff else none

theorem criticalOf_off {cameras : GoMap GoString Unit} (h : cameras = ∅) :
    criticalOf false cameras = some .cameraOff := by
  simp [criticalOf, h]

theorem criticalOf_others {cameras : GoMap GoString Unit} (h : cameras ≠ ∅) :
    criticalOf false cameras = none := by
  simp [criticalOf, h]

theorem receiveSignal_eq (store : Store) (sig : Signal) (a : App) :
    receiveSignal store sig a =
      match onOff store sig with
      | none => (a, none)
      | some (on, v) => ({ a with activeCameras := setCamera on v a.activeCameras },
          criticalOf on (setCamera on v a.activeCameras)) := by
  unfold receiveSignal onOff
  cases decode store sig with
  | none => rfl
  | some body =>
    dsimp only
    by_cases hon : body.type = cameraEventRecordingOn
    · rw [if_pos hon, if_pos hon]
      dsimp only
      split <;> rfl
    · rw [if_neg hon, if_neg hon]
      by_cases hoff : body.type = cameraEventRecordingOff
      · rw [if_pos hoff, if_pos hoff]
        simp only [criticalOf, setCamera, GoMap.len_eq_zero_iff]
        split <;> simp_all
      · rw [if_neg hoff, if_neg hoff]

section
variable {store : Store} {a : App} {i : Handling}

/-- A signal that is neither On nor Off is ignored. -/
theorem step_of_onOff_none (ho : onOff store i.sig = none) :
    (handler store).step a i = (a, []) := by
  unfold handler handleSignal
  dsimp only
  rw [receiveSignal_eq, ho]

/-- An On or an Off updates the set of cameras and runs the critical section, if there is one. -/
theorem step_of_onOff {on : Bool} {v : GoString} (ho : onOff store i.sig = some (on, v)) :
    (handler store).step a i =
      (criticalOf on (setCamera on v a.activeCameras)).elim
        ({ a with activeCameras := setCamera on v a.activeCameras }, [])
        fun c => c.run i.devices { a with activeCameras := setCamera on v a.activeCameras } := by
  unfold handler handleSignal
  dsimp only
  rw [receiveSignal_eq, ho]
  dsimp only
  cases criticalOf on (setCamera on v a.activeCameras) <;> rfl

end

/-! ## The critical sections -/

theorem eachDevice_eq (devices : List Device) (call : Device → Command) :
    eachDevice devices call = devices.map call := by
  unfold eachDevice
  split
  · rename_i h
    rw [List.length_eq_zero_iff.1 h, List.map_nil]
  · rfl

/-- The state the cameras are in is what the critical section is for. -/
def Critical.on : Critical → Bool
  | .cameraOn => true
  | .cameraOff => false

/-- The label it sets. -/
def Critical.label : Critical → String
  | .cameraOn => cameraStatusOnLabel
  | .cameraOff => cameraStatusOffLabel

/-- What a critical section leaves alone, and the label it sets. -/
theorem Critical.run_keeps (devices : List Device) (c : Critical) (a : App) :
    (c.run devices a).1.activeCameras = a.activeCameras ∧
    (c.run devices a).1.disabled = a.disabled ∧
    (c.run devices a).1.enableItem = a.enableItem ∧
    (c.run devices a).1.cameraStatusItem = c.label := by
  cases c <;> cases hd : a.disabled <;>
    simp [Critical.run, handleCameraOn, handleCameraOff, handleCamera, setLights, Critical.label,
      hd]

/-- While light control is disabled the lights are left alone. -/
theorem Critical.run_disabled (devices : List Device) (c : Critical) {a : App}
    (hd : a.disabled = true) : (c.run devices a).1.lightOn = a.lightOn ∧
      (c.run devices a).1.toggleLightItem = a.toggleLightItem ∧ (c.run devices a).2 = [] := by
  cases c <;> simp [Critical.run, handleCameraOn, handleCameraOff, handleCamera, hd]

/-- Otherwise they are set as the cameras are. -/
theorem Critical.run_enabled (devices : List Device) (c : Critical) {a : App}
    (hd : a.disabled = false) : (c.run devices a).1.lightOn = c.on ∧
      (c.run devices a).1.toggleLightItem = (if c.on then toggleLightOffLabel
        else toggleLightOnLabel) ∧ (c.run devices a).2 = devices.map (light c.on) := by
  cases c <;> simp [Critical.run, handleCameraOn, handleCameraOff, handleCamera, setLights,
    Critical.on, eachDevice_eq, hd]

end Autolight
