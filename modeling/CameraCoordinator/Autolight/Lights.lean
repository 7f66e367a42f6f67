import CameraCoordinator.Autolight.Ui

/-!
# The lights converge

Signals handled one after another, without clicks between them. An On, or an Off that leaves no
camera, sets the lights as the cameras are (`Synchronises`), and any other signal leaves lights and
the level of the cameras alone. So from the first synchronising signal on the lights agree with the
cameras, whatever the state was before: `lights_converge`.

`handle_run` says that the handling of a signal is a run of the signal thread.
-/

set_option autoImplicit false

namespace Autolight

open Dbus (Signal Store)

/-- The thread handles a signal from its receipt to its end. -/
theorem handle_run (store : Store) (s : Ui) (hidle : s.thread = none) (i : Handling) :
    Relation.ReflTransGen (Ui.Step store .signals) s
      { app := ((handler store).step s.app i).1
        thread := none
        received := s.received ++ [i.sig]
        commands := s.commands ++ ((handler store).step s.app i).2 } := by
  have hreceive : Ui.Step store .signals s _ := .receive i.sig hidle
  unfold handler handleSignal
  dsimp only
  cases hr : receiveSignal store i.sig s.app with
  | mk a critical =>
    rw [hr] at hreceive
    cases critical with
    | none =>
      rw [List.append_nil]
      exact .single hreceive
    | some c => exact (Relation.ReflTransGen.single hreceive).tail (.critical i.devices rfl)

/-! ## One signal -/

/-- The signal is an On, or an Off that leaves no camera. -/
def Synchronises (store : Store) (a : App) (i : Handling) : Prop :=
  ∃ on v, onOff store i.sig = some (on, v) ∧ (on = false → a.activeCameras.erase v = ∅)

section
variable {store : Store} {a : App} {i : Handling}

/-- A synchronising signal leads to the critical section of what the cameras are then. -/
theorem step_of_synchronises (hs : Synchronises store a i) : ∃ a' c,
    (handler store).step a i = Critical.run i.devices c a' ∧ a'.disabled = a.disabled ∧
      (c.on = true ↔ a'.activeCameras ≠ ∅) := by
  obtain ⟨on, v, ho, hoff⟩ := hs
  rw [step_of_onOff ho]
  cases on with
  | true =>
    have hne := setCamera_on_ne_empty v a.activeCameras
    exact ⟨_, .cameraOn, rfl, rfl, iff_of_true rfl hne⟩
  | false =>
    have he : setCamera false v a.activeCameras = ∅ := hoff rfl
    rw [criticalOf_off he]
    exact ⟨_, .cameraOff, rfl, rfl, iff_of_false (by decide) fun h => h he⟩

/-- It sets the lights as the cameras are, if light control is enabled. -/
theorem lights_of_synchronises (hd : a.disabled = false) (hs : Synchronises store a i) :
    (((handler store).step a i).1.lightOn = true ↔
      ((handler store).step a i).1.activeCameras ≠ ∅) ∧
    ((handler store).step a i).2 =
      i.devices.map (light ((handler store).step a i).1.lightOn) := by
  obtain ⟨a', c, hstep, hdis, hon⟩ := step_of_synchronises hs
  obtain ⟨hlight, -, hcmd⟩ := c.run_enabled i.devices (hdis.trans hd)
  obtain ⟨hcam, -⟩ := c.run_keeps i.devices a'
  rw [hstep, hlight, hcam]
  exact ⟨hon, hcmd⟩

/-- Any other signal leaves the lights alone, and whether there are cameras. -/
theorem step_of_not_synchronises (hs : ¬ Synchronises store a i) :
    ∃ cameras, (handler store).step a i = ({ a with activeCameras := cameras }, []) ∧
      (cameras ≠ ∅ ↔ a.activeCameras ≠ ∅) := by
  cases ho : onOff store i.sig with
  | none => exact ⟨a.activeCameras, step_of_onOff_none ho, Iff.rfl⟩
  | some onv =>
    obtain ⟨on, v⟩ := onv
    cases on with
    | true => exact absurd ⟨true, v, ho, by simp⟩ hs
    | false =>
      have hne : setCamera false v a.activeCameras ≠ ∅ := fun h => hs ⟨false, v, ho, fun _ => h⟩
      rw [step_of_onOff ho, criticalOf_others hne]
      exact ⟨_, rfl, iff_of_true hne (ne_empty_of_setCamera_off hne)⟩

/-- No signal enables or disables light control. -/
theorem disabled_step : ((handler store).step a i).1.disabled = a.disabled := by
  by_cases hs : Synchronises store a i
  · obtain ⟨a', c, hstep, hdis, -⟩ := step_of_synchronises hs
    rw [hstep, (c.run_keeps i.devices a').2.1, hdis]
  · obtain ⟨cameras, hstep, -⟩ := step_of_not_synchronises hs
    rw [hstep]

theorem disabled_state (ins : List Handling) :
    ((handler store).state a ins).disabled = a.disabled :=
  Mealy.inv_run (P := fun b : App => b.disabled = a.disabled) rfl
    (fun _ _ h => disabled_step.trans h) ins

end

/-! ## Runs -/

/-- After the signals the lights agree with the cameras, and at the last synchronising signal every
light that was listed was sent the command that agrees. -/
structure Settled (store : Store) (a : App) (ins : List Handling) : Prop where
  agrees : ((handler store).state a ins).lightOn = true ↔
    ((handler store).state a ins).activeCameras ≠ ∅
  sent : ∃ l i r, ins = l ++ i :: r ∧ Synchronises store ((handler store).state a l) i ∧
    (∀ m j q, r = m ++ j :: q → ¬ Synchronises store ((handler store).state a (l ++ i :: m)) j) ∧
    ((handler store).step ((handler store).state a l) i).2 = i.devices.map fun d =>
      if ((handler store).state a ins).lightOn then .lightOn d.index else .lightOff d.index

section
variable {store : Store} {a : App} {ins : List Handling} {j : Handling}

theorem settled_of_synchronises (hd : a.disabled = false)
    (hs : Synchronises store ((handler store).state a ins) j) : Settled store a (ins ++ [j]) := by
  obtain ⟨hagrees, hcmd⟩ := lights_of_synchronises ((disabled_state ins).trans hd) hs
  refine ⟨by rw [Mealy.state_snoc]; exact hagrees, ins, j, [], rfl, hs, ?_, ?_⟩
  · intro m k q h
    simp at h
  · rw [Mealy.state_snoc]
    exact hcmd

theorem Settled.snoc (h : Settled store a ins)
    (hs : ¬ Synchronises store ((handler store).state a ins) j) :
    Settled store a (ins ++ [j]) := by
  obtain ⟨hagrees, l, i, r, hsplit, hsync, hlast, hcmd⟩ := h
  obtain ⟨cameras, hstep, hcam⟩ := step_of_not_synchronises hs
  have hstate : (handler store).state a (ins ++ [j]) =
      { (handler store).state a ins with activeCameras := cameras } := by
    rw [Mealy.state_snoc, hstep]
  refine ⟨by rw [hstate]; exact hagrees.trans hcam.symm, l, i, r ++ [j], by simp [hsplit], hsync,
    fun m k q h => ?_, by rw [hstate]; exact hcmd⟩
  rcases Mealy.split_snoc h with ⟨rfl, rfl, -⟩ | ⟨q', -, hr⟩
  · rw [← hsplit]
    exact hs
  · exact hlast m k q' hr

/-- **The lights converge.** From any state with light control enabled, whatever clicks and signals
led to it, and over any signals without clicks: once one of them has synchronised, `lightOn` says
whether there are cameras, and when it was last set every light listed at that moment was sent the
command that agrees with it. -/
theorem lights_converge (store : Store) (a : App) (hd : a.disabled = false) (ins : List Handling)
    (hsync : ∃ l i r, ins = l ++ i :: r ∧ Synchronises store ((handler store).state a l) i) :
    Settled store a ins := by
  induction ins using List.reverseRecOn with
  | nil =>
    obtain ⟨l, i, r, h, -⟩ := hsync
    simp at h
  | append_singleton ins j ih =>
    by_cases hj : Synchronises store ((handler store).state a ins) j
    · exact settled_of_synchronises hd hj
    · refine (ih ?_).snoc hj
      obtain ⟨l, i, r, hsplit, hs⟩ := hsync
      rcases Mealy.split_snoc hsplit with ⟨rfl, rfl, -⟩ | ⟨r', -, hins⟩
      · exact absurd hs hj
      · exact ⟨l, i, r', hins, hs⟩

end

/-- The light was turned on by hand, and an Off turns it off. -/
theorem converges_after_toggle :
    Settled Dbus.storeFields (onToggleLightClicked [⟨3⟩] newApp).1
      [⟨Dbus.emit (.test cameraEventRecordingOff), [⟨3⟩]⟩] ∧
    ((handler Dbus.storeFields).state (onToggleLightClicked [⟨3⟩] newApp).1
      [⟨Dbus.emit (.test cameraEventRecordingOff), [⟨3⟩]⟩]).lightOn = false :=
  ⟨lights_converge _ _ rfl _ ⟨[], _, [], rfl, false, goString "video0", rfl, fun _ => rfl⟩, rfl⟩

end Autolight
