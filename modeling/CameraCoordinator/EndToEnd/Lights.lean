import CameraCoordinator.Autolight.Undisturbed
import CameraCoordinator.EndToEnd.Settled

/-!
# From the kernel to the lights

The system in runs in which the user leaves the lights and light control alone. Whatever he did
before: from a state on in which the lights follow the cameras, or the application is about to set
them, where nothing is under way and nothing has failed, all devices capture and all releases are
final, each light is on exactly if the kernel has a device streaming (`lights_follow`).
-/

set_option autoImplicit false

namespace EndToEnd

open Dbus (Store)
open Autolight (Device Undisturbed Follows lit)

variable {n : Nat}

/-- The runs of the system in which the application is undisturbed and finds the given lights. -/
def UndisturbedRun (store : Store) (lights : List Device) (s t : State n) : Prop :=
  Relation.ReflTransGen (fun s s' => (∃ a, Step store a s s') ∧
    (s'.ui = s.ui ∨ Undisturbed store lights s.ui s'.ui)) s t

section
variable {store : Store} {lights : List Device} {s t : State n}

theorem UndisturbedRun.reachable (h : UndisturbedRun store lights s t) (hs : Reachable store s) :
    Reachable store t :=
  hs.trans (Relation.ReflTransGen.mono (fun _ _ hstep => hstep.1) _ _ h)

/-- The lights go on to follow the cameras. -/
theorem UndisturbedRun.follows (h : UndisturbedRun store lights s t) (hs : Reachable store s)
    (hf : Follows lights s.ui) : Follows lights t.ui := by
  refine Relation.ReflTransGen.invariant_reached (P := fun t => Follows lights t.ui) h hf ?_
  intro u u' hrun hstep hu
  rcases hstep.2 with heq | hui
  · rw [heq]
    exact hu
  · have hreach : Reachable store u := UndisturbedRun.reachable hrun hs
    exact hui.follows (Autolight.Ui.reachable_inv (reachable_ui hreach)) hu

end

/-- **The lights follow the cameras.** From any reachable state, however it came about, in which the
lights follow the cameras or a camera signal is being handled with light control enabled, in every
run without clicks on the lights or on light control, whatever else happens: while no signal is
being handled, `lightOn` says whether the application shows cameras, and so does what was last sent
to each light. Where nothing is under way and nothing has failed, all devices capture and all
releases are final, both say whether the kernel has a device streaming. -/
theorem lights_follow (store : Store) (hstore : store.Faithful) (lights : List Device)
    (s t : State n) (hs : Reachable store s) (hfollows : Follows lights s.ui)
    (hrun : UndisturbedRun store lights s t) :
    (t.ui.thread = none → (t.ui.app.lightOn = true ↔ t.ui.app.activeCameras ≠ ∅) ∧
      ∀ d ∈ lights, lit d.index t.ui.commands = true ↔ t.ui.app.activeCameras ≠ ∅) ∧
    (Quiet t → Unfailed t →
      (t.ui.app.lightOn = true ↔ ∃ k, k ∈ Bpf.streamingPid t.firings) ∧
      ∀ d ∈ lights, lit d.index t.ui.commands = true ↔ ∃ k, k ∈ Bpf.streamingPid t.firings) := by
  have ht := hrun.reachable hs
  have hf := hrun.follows hs hfollows
  have hidle : t.ui.thread = none → (t.ui.app.lightOn = true ↔ t.ui.app.activeCameras ≠ ∅) ∧
      ∀ d ∈ lights, lit d.index t.ui.commands = true ↔ t.ui.app.activeCameras ≠ ∅ := by
    intro hnone
    refine ⟨hf.lightOn hnone, fun d hd => ?_⟩
    rw [hf.lit hnone d hd]
    exact hf.lightOn hnone
  refine ⟨hidle, fun hq hun => ?_⟩
  have hcameras : t.ui.app.activeCameras ≠ ∅ ↔ ∃ k, k ∈ Bpf.streamingPid t.firings := by
    rw [GoMap.ne_empty_iff]
    exact exists_camera_iff ht hq hstore hun
  obtain ⟨hlight, hlit⟩ := hidle hq.thread
  exact ⟨hlight.trans hcameras, fun d hd => (hlit d hd).trans hcameras⟩

/-- `video0` is turned on, and so is the light. -/
theorem lit_after_on : ∃ s t : State 0, Reachable Dbus.storeFields s ∧
    UndisturbedRun Dbus.storeFields [⟨3⟩] s t ∧ lit 3 t.ui.commands = true := by
  obtain ⟨s, hs⟩ := told_of_fired [Bpf.onVideo0 .streamon 7]
  have hreach := hs.reachable reachable_fired
  have hne : s.ui.thread ≠ none := by simp [hs.thread]
  have hfollows : Follows [⟨3⟩] s.ui :=
    ⟨hs.enabled, fun h => absurd h hne, fun h => absurd h hne⟩
  have hrun : UndisturbedRun Dbus.storeFields [⟨3⟩] s _ :=
    .single ⟨⟨_, .critical [⟨3⟩] hs.thread⟩, .inr (.critical hs.thread)⟩
  have hlit := ((lights_follow _ Dbus.storeFields_faithful [⟨3⟩] s _ hreach hfollows hrun).2
    (hs.quiet rfl) (hs.unfailed (.of_length (by decide) (by decide)))).2 ⟨3⟩ (by simp)
  refine ⟨s, _, hreach, hrun, hlit.2 ?_⟩
  dsimp only
  rw [hs.firings]
  exact ⟨Bpf.video0, by decide⟩

end EndToEnd
