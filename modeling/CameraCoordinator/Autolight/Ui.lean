import CameraCoordinator.Autolight.App
import CameraCoordinator.Lib.Runs

/-!
# Signals and clicks

The thread that handles signals and the clicks on the menu, interleaved: clicks and the critical
sections of the signals hold `mut` and are atomic, and a click may fall between the update of the
set of cameras and the critical section after it.

`ui_truthful`: whatever the order, the labels say what the state is, and a critical section that
runs while light control is disabled leaves the lights alone.
-/

set_option autoImplicit false

namespace Autolight

open Dbus (Signal Store)

/-! ## States and steps -/

structure Ui where
  app : App
  /-- The critical section the signal thread is about to enter, if it is handling a signal. -/
  thread : Option Critical
  /-- The signals received. -/
  received : List Signal
  /-- The commands sent to the lights. -/
  commands : List Command

/-- `NewApp` has returned. -/
def Ui.init : Ui := ⟨newApp, none, [], []⟩

/-- Who takes a step. -/
inductive Actor
  | signals
  | clicks
  deriving DecidableEq

inductive Ui.Step (store : Store) : Actor → Ui → Ui → Prop
  | receive {s : Ui} (sig : Signal) : s.thread = none →
      Ui.Step store .signals s { s with
        app := (receiveSignal store sig s.app).1
        thread := (receiveSignal store sig s.app).2
        received := s.received ++ [sig] }
  | critical {s : Ui} {c : Critical} (devices : List Device) : s.thread = some c →
      Ui.Step store .signals s { s with
        app := (c.run devices s.app).1
        thread := none
        commands := s.commands ++ (c.run devices s.app).2 }
  | click {s : Ui} {c : Click} (devices : List Device) : c ∈ menu →
      Ui.Step store .clicks s { s with
        app := (c.run devices s.app).1
        commands := s.commands ++ (c.run devices s.app).2 }

/-- The states after any signals and clicks. -/
def Ui.Reachable (store : Store) (s : Ui) : Prop :=
  Relation.ReflTransGen (fun s s' => ∃ a, Ui.Step store a s s') .init s

/-! ## The labels -/

/-- The labels of the two items that are clicked say what the state is. -/
structure Labels (a : App) : Prop where
  toggle : a.toggleLightItem = if a.lightOn then toggleLightOffLabel else toggleLightOnLabel
  enable : a.enableItem = if a.disabled then enableLightControlLabel else disableLightControlLabel

theorem labels_newApp : Labels newApp := ⟨rfl, rfl⟩

theorem Labels.click {a : App} (h : Labels a) (devices : List Device) (c : Click) :
    Labels (c.run devices a).1 := by
  cases c with
  | toggleLight => exact ⟨rfl, h.enable⟩
  | enable => exact ⟨h.toggle, rfl⟩
  | brightness level => exact h
  | colorTemperature temp => exact h

theorem Labels.critical {a : App} (h : Labels a) (devices : List Device) (c : Critical) :
    Labels (c.run devices a).1 := by
  obtain ⟨-, hdis, hitem, -⟩ := c.run_keeps devices a
  refine ⟨?_, by rw [hitem, hdis, h.enable]⟩
  cases hd : a.disabled with
  | true =>
    obtain ⟨hlight, hlabel, -⟩ := c.run_disabled devices hd
    rw [hlight, hlabel, h.toggle]
  | false =>
    obtain ⟨hlight, hlabel, -⟩ := c.run_enabled devices hd
    rw [hlight, hlabel]

/-- Receiving a signal touches nothing but the set of cameras. -/
theorem receiveSignal_keeps (store : Store) (sig : Signal) (a : App) :
    (receiveSignal store sig a).1 =
      { a with activeCameras := (receiveSignal store sig a).1.activeCameras } := by
  rw [receiveSignal_eq]
  cases onOff store sig <;> rfl

theorem Click.run_keeps (devices : List Device) (c : Click) (a : App) :
    (c.run devices a).1.activeCameras = a.activeCameras ∧
    (c.run devices a).1.cameraStatusItem = a.cameraStatusItem := by
  cases c <;> exact ⟨rfl, rfl⟩

/-! ## The camera label -/

/-- Some On or Off signal was decoded. -/
def Decoded (store : Store) (received : List Signal) : Prop :=
  ∃ sig ∈ received, onOff store sig ≠ none

theorem decoded_snoc {store : Store} {received : List Signal} {sig : Signal} :
    Decoded store (received ++ [sig]) ↔ Decoded store received ∨ onOff store sig ≠ none := by
  simp [Decoded, or_and_right, exists_or]

/-- The camera label says what the set of cameras is, once a signal has been decoded. -/
structure CameraLabel (store : Store) (received : List Signal) (a : App) : Prop where
  on : a.activeCameras ≠ ∅ → a.cameraStatusItem = cameraStatusOnLabel
  off : a.activeCameras = ∅ → Decoded store received → a.cameraStatusItem = cameraStatusOffLabel
  unknown : a.activeCameras = ∅ → ¬ Decoded store received →
    a.cameraStatusItem = cameraStatusUnknownLabel

/-- What holds of the camera label: while a signal is handled, that the critical section to come
will set it right. -/
def CameraInv (store : Store) (s : Ui) : Prop :=
  match s.thread with
  | none => CameraLabel store s.received s.app
  | some c => (c.on = true ↔ s.app.activeCameras ≠ ∅) ∧ Decoded store s.received

structure Ui.Inv (store : Store) (s : Ui) : Prop where
  labels : Labels s.app
  camera : CameraInv store s

theorem Ui.init_inv (store : Store) : Ui.Inv store .init := by
  refine ⟨labels_newApp, fun h => absurd rfl h, fun _ hd => ?_, fun _ _ => rfl⟩
  obtain ⟨sig, hsig, -⟩ := hd
  cases hsig

/-! ## One step -/

section
variable {store : Store} {s : Ui}

/-- An On makes the set of cameras not empty. -/
theorem setCamera_on_ne_empty (v : GoString) (cameras : GoMap GoString Unit) :
    setCamera true v cameras ≠ ∅ :=
  GoMap.ne_empty_iff.2 ⟨v, mem_setCamera.2 (by simp)⟩

/-- If an Off leaves a camera, there were cameras before. -/
theorem ne_empty_of_setCamera_off {v : GoString} {cameras : GoMap GoString Unit}
    (h : setCamera false v cameras ≠ ∅) : cameras ≠ ∅ := by
  obtain ⟨v', hv'⟩ := GoMap.ne_empty_iff.1 h
  rw [mem_setCamera] at hv'
  split at hv'
  · cases hv'
  · exact GoMap.ne_empty_iff.2 ⟨v', hv'⟩

/-- A signal either changes nothing or leads to the critical section that sets the label. -/
theorem cameraInv_receive (hs : CameraInv store s) (hidle : s.thread = none) (sig : Signal) :
    CameraInv store { s with
      app := (receiveSignal store sig s.app).1
      thread := (receiveSignal store sig s.app).2
      received := s.received ++ [sig] } := by
  unfold CameraInv at hs
  rw [hidle] at hs
  have heq := receiveSignal_eq store sig s.app
  cases ho : onOff store sig with
  | none =>
    rw [ho] at heq
    have hdec : Decoded store (s.received ++ [sig]) ↔ Decoded store s.received := by
      simp [decoded_snoc, ho]
    rw [heq]
    exact ⟨hs.on, fun he hd => hs.off he (hdec.1 hd), fun he hd => hs.unknown he (mt hdec.2 hd)⟩
  | some onv =>
    obtain ⟨on, v⟩ := onv
    rw [ho] at heq
    have hdec : Decoded store (s.received ++ [sig]) := decoded_snoc.2 (.inr (by simp [ho]))
    rw [heq]
    cases on with
    | true => exact ⟨iff_of_true rfl (setCamera_on_ne_empty _ _), hdec⟩
    | false =>
      unfold CameraInv
      dsimp only
      by_cases he : setCamera false v s.app.activeCameras = ∅
      · rw [criticalOf_off he]
        exact ⟨iff_of_false (by decide) (fun h => h he), hdec⟩
      · rw [criticalOf_others he]
        exact ⟨fun _ => hs.on (ne_empty_of_setCamera_off he), fun h => absurd h he,
          fun h => absurd h he⟩

theorem cameraInv_critical (hs : CameraInv store s) {c : Critical} (hc : s.thread = some c)
    (devices : List Device) : CameraLabel store s.received (c.run devices s.app).1 := by
  unfold CameraInv at hs
  rw [hc] at hs
  obtain ⟨hon, hdec⟩ := hs
  obtain ⟨hcam, -, -, hlabel⟩ := c.run_keeps devices s.app
  refine ⟨fun he => ?_, fun he _ => ?_, fun _ hno => absurd hdec hno⟩
  · rw [hcam] at he
    rw [hlabel]
    cases c with
    | cameraOn => rfl
    | cameraOff => cases hon.2 he
  · rw [hcam] at he
    rw [hlabel]
    cases c with
    | cameraOn => exact absurd he (hon.1 rfl)
    | cameraOff => rfl

/-- **Every step keeps the labels right.** -/
theorem Ui.Step.inv {a : Actor} {s' : Ui} (h : Ui.Step store a s s') (hs : Ui.Inv store s) :
    Ui.Inv store s' := by
  cases h with
  | receive sig hidle =>
    refine ⟨?_, cameraInv_receive hs.camera hidle sig⟩
    rw [receiveSignal_keeps]
    exact ⟨hs.labels.toggle, hs.labels.enable⟩
  | @critical _ c devices hc =>
    exact ⟨hs.labels.critical devices c, cameraInv_critical hs.camera hc devices⟩
  | @click _ c devices _ =>
    refine ⟨hs.labels.click devices c, ?_⟩
    obtain ⟨hcam, hitem⟩ := c.run_keeps devices s.app
    have hcamera := hs.camera
    unfold CameraInv at *
    dsimp only
    split at hcamera
    · refine ⟨?_, ?_, ?_⟩ <;> rw [hcam, hitem]
      · exact hcamera.on
      · exact hcamera.off
      · exact hcamera.unknown
    · rw [hcam]
      exact hcamera

end

/-- **Every reachable state has the right labels.** -/
theorem Ui.reachable_inv {store : Store} {s : Ui} (h : Ui.Reachable store s) :
    Ui.Inv store s :=
  h.invariant_labelled (Ui.init_inv store) Ui.Step.inv

/-! ## Truthfulness -/

/-- While no signal is being handled the camera label is right. -/
theorem Ui.Inv.cameraLabel {store : Store} {s : Ui} (hs : Ui.Inv store s)
    (hidle : s.thread = none) : CameraLabel store s.received s.app := by
  have hcamera := hs.camera
  unfold CameraInv at hcamera
  rwa [hidle] at hcamera

/-- A critical section to come is for what the set of cameras is. -/
theorem Ui.Inv.critical_on {store : Store} {s : Ui} (hs : Ui.Inv store s) {c : Critical}
    (hc : s.thread = some c) : c.on = true ↔ s.app.activeCameras ≠ ∅ := by
  have hcamera := hs.camera
  unfold CameraInv at hcamera
  rw [hc] at hcamera
  exact hcamera.1

theorem CameraLabel.on_iff {store : Store} {received : List Signal} {a : App}
    (h : CameraLabel store received a) :
    a.cameraStatusItem = cameraStatusOnLabel ↔ a.activeCameras ≠ ∅ := by
  refine ⟨fun hl he => ?_, h.on⟩
  by_cases hd : Decoded store received
  · exact absurd ((h.off he hd).symm.trans hl) (by decide)
  · exact absurd ((h.unknown he hd).symm.trans hl) (by decide)

theorem CameraLabel.off_iff {store : Store} {received : List Signal} {a : App}
    (h : CameraLabel store received a) : a.cameraStatusItem = cameraStatusOffLabel ↔
      a.activeCameras = ∅ ∧ Decoded store received := by
  refine ⟨fun hl => ?_, fun ⟨he, hd⟩ => h.off he hd⟩
  have he : a.activeCameras = ∅ := by
    by_contra hne
    exact absurd ((h.on hne).symm.trans hl) (by decide)
  refine ⟨he, ?_⟩
  by_contra hd
  exact absurd ((h.unknown he hd).symm.trans hl) (by decide)

theorem CameraLabel.unknown_iff {store : Store} {received : List Signal} {a : App}
    (h : CameraLabel store received a) : a.cameraStatusItem = cameraStatusUnknownLabel ↔
      a.activeCameras = ∅ ∧ ¬ Decoded store received := by
  refine ⟨fun hl => ?_, fun ⟨he, hd⟩ => h.unknown he hd⟩
  have he : a.activeCameras = ∅ := by
    by_contra hne
    exact absurd ((h.on hne).symm.trans hl) (by decide)
  exact ⟨he, fun hd => absurd ((h.off he hd).symm.trans hl) (by decide)⟩

theorem Labels.toggle_iff {a : App} (h : Labels a) :
    a.toggleLightItem = toggleLightOffLabel ↔ a.lightOn = true := by
  rw [h.toggle]
  cases a.lightOn <;> decide

theorem Labels.enable_iff {a : App} (h : Labels a) :
    a.enableItem = enableLightControlLabel ↔ a.disabled = true := by
  rw [h.enable]
  cases a.disabled <;> decide

/-- The signal thread leaves the lights alone while light control is disabled. -/
theorem Ui.Step.disabled {store : Store} {s s' : Ui} (h : Ui.Step store .signals s s')
    (hd : s.thread ≠ none → s.app.disabled = true) :
    s'.app.lightOn = s.app.lightOn ∧ s'.commands = s.commands := by
  cases h with
  | receive sig _ =>
    refine ⟨?_, rfl⟩
    dsimp only
    rw [receiveSignal_keeps]
  | @critical _ c devices hc =>
    obtain ⟨hlight, -, hcmd⟩ := c.run_disabled devices (hd (by simp [hc]))
    exact ⟨hlight, by simp [hcmd]⟩

/-- **The user interface never lies.** In every reachable state the toggle and the enable item say
what `lightOn` and `disabled` are, and while no signal is being handled the camera label says what
the set of cameras is: On if there are any, Off if there are none and a signal was decoded, else
Unknown. A step of the signal thread, unless it is a critical section that finds light control
enabled, changes neither `lightOn` nor sends a command. -/
theorem ui_truthful (store : Store) (s : Ui) (hs : Ui.Reachable store s) :
    (s.app.toggleLightItem = toggleLightOffLabel ↔ s.app.lightOn = true) ∧
    (s.app.enableItem = enableLightControlLabel ↔ s.app.disabled = true) ∧
    (s.thread = none →
      (s.app.cameraStatusItem = cameraStatusOnLabel ↔ s.app.activeCameras ≠ ∅) ∧
      (s.app.cameraStatusItem = cameraStatusOffLabel ↔
        s.app.activeCameras = ∅ ∧ Decoded store s.received) ∧
      (s.app.cameraStatusItem = cameraStatusUnknownLabel ↔
        s.app.activeCameras = ∅ ∧ ¬ Decoded store s.received)) ∧
    ∀ s', Ui.Step store .signals s s' → (s.thread ≠ none → s.app.disabled = true) →
      s'.app.lightOn = s.app.lightOn ∧ s'.commands = s.commands := by
  have hinv := Ui.reachable_inv hs
  refine ⟨hinv.labels.toggle_iff, hinv.labels.enable_iff, fun hidle => ?_,
    fun s' h hd => h.disabled hd⟩
  have hcamera := hinv.cameraLabel hidle
  exact ⟨hcamera.on_iff, hcamera.off_iff, hcamera.unknown_iff⟩

/-- A camera is turned on while the user disables light control. -/
theorem truthful_after_click : ∃ s, Ui.Reachable Dbus.storeFields s ∧ s.app.disabled = true ∧
    s.app.activeCameras ≠ ∅ ∧ s.app.lightOn = false ∧
    s.app.cameraStatusItem = cameraStatusOnLabel := by
  have h0 : Ui.Reachable Dbus.storeFields .init := .refl
  have h1 := h0.tail ⟨_, .receive (Dbus.emit (.test cameraEventRecordingOn)) rfl⟩
  have h2 := h1.tail ⟨_, .click (c := .enable) [⟨0⟩] (by decide)⟩
  have h3 := h2.tail ⟨_, .critical (c := .cameraOn) [⟨0⟩] rfl⟩
  have hne : setCamera true (goString "video0") ∅ ≠ ∅ := setCamera_on_ne_empty _ _
  exact ⟨_, h3, rfl, hne, rfl, ((ui_truthful _ _ h3).2.2.1 rfl).1.2 hne⟩

end Autolight
