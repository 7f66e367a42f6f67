import CameraCoordinator.Autolight.Ui

/-!
# The lights follow the cameras

Runs in which the user changes brightness and colour as he likes, but neither turns the lights on or
off nor disables light control (`Undisturbed`), and in which the same lights are listed each time.
In these the lights are as the cameras are whenever no signal is being handled, the variable
`lightOn` as well as what was last sent to each light (`Undisturbed.follows`). What was before does
not matter if a critical section is still to come.
-/

set_option autoImplicit false

namespace Autolight

open Dbus (Signal Store)

/-! ## What the commands do -/

/-- What a light is after a command, if it is carried out. -/
def Command.apply (i : Int) (on : Bool) : Command → Bool
  | .lightOn j => if j = i then true else on
  | .lightOff j => if j = i then false else on
  | .lightBrightness _ _ => on
  | .lightTemperature _ _ => on

/-- A light that was off is on after the commands. -/
def lit (i : Int) (commands : List Command) : Bool := commands.foldl (Command.apply i) false

theorem lit_append (i : Int) (l r : List Command) :
    lit i (l ++ r) = r.foldl (Command.apply i) (lit i l) := List.foldl_append

theorem apply_light (i : Int) (b on : Bool) (d : Device) :
    Command.apply i b (light on d) = if d.index = i then on else b := by
  cases on <;> rfl

/-- The lights that are listed are set. -/
theorem foldl_lights (on : Bool) (devices : List Device) (b : Bool) {d : Device}
    (h : d ∈ devices ∨ b = on) :
    (devices.map (light on)).foldl (Command.apply d.index) b = on := by
  induction devices generalizing b with
  | nil => exact h.resolve_left List.not_mem_nil
  | cons d' rest ih =>
    rw [List.map_cons, List.foldl_cons, apply_light]
    refine ih _ ?_
    by_cases hd : d'.index = d.index
    · exact .inr (if_pos hd)
    · rw [if_neg hd]
      refine h.imp_left fun hmem => ?_
      rcases List.mem_cons.1 hmem with rfl | hmem
      · exact absurd rfl hd
      · exact hmem

theorem lit_lights {on : Bool} {devices : List Device} {d : Device} (h : d ∈ devices)
    (commands : List Command) : lit d.index (commands ++ devices.map (light on)) = on := by
  rw [lit_append]
  exact foldl_lights on devices _ (.inl h)

/-! ## Undisturbed runs -/

/-- A step of the application in which the user neither turns the lights on or off nor changes
whether light control is disabled, and the critical sections find the given lights. -/
inductive Undisturbed (store : Store) (lights : List Device) : Ui → Ui → Prop
  | receive {s : Ui} (sig : Signal) : s.thread = none →
      Undisturbed store lights s { s with
        app := (receiveSignal store sig s.app).1
        thread := (receiveSignal store sig s.app).2
        received := s.received ++ [sig] }
  | critical {s : Ui} {c : Critical} : s.thread = some c →
      Undisturbed store lights s { s with
        app := (c.run lights s.app).1
        thread := none
        commands := s.commands ++ (c.run lights s.app).2 }
  | click {s : Ui} {c : Click} (devices : List Device) : c ∈ menu → c ≠ .toggleLight →
      c ≠ .enable → Undisturbed store lights s { s with
        app := (c.run devices s.app).1
        commands := s.commands ++ (c.run devices s.app).2 }

/-- Light control is enabled, and unless a signal is being handled the lights are as the cameras
are. -/
structure Follows (lights : List Device) (s : Ui) : Prop where
  enabled : s.app.disabled = false
  lightOn : s.thread = none → (s.app.lightOn = true ↔ s.app.activeCameras ≠ ∅)
  lit : s.thread = none → ∀ d ∈ lights, lit d.index s.commands = s.app.lightOn

/-- A signal without a critical section leaves it at whether there are cameras. -/
theorem receiveSignal_idle {store : Store} {sig : Signal} {a : App}
    (h : (receiveSignal store sig a).2 = none) :
    (receiveSignal store sig a).1.activeCameras ≠ ∅ ↔ a.activeCameras ≠ ∅ := by
  have heq := receiveSignal_eq store sig a
  cases ho : onOff store sig with
  | none =>
    rw [ho] at heq
    rw [heq]
  | some onv =>
    obtain ⟨on, v⟩ := onv
    rw [ho] at heq
    rw [heq] at h ⊢
    dsimp only at h ⊢
    cases on with
    | true => cases h
    | false =>
      have hne : setCamera false v a.activeCameras ≠ ∅ := by
        intro he
        rw [criticalOf_off he] at h
        cases h
      exact iff_of_true hne (ne_empty_of_setCamera_off hne)

/-- A click for brightness or colour leaves the application alone, and whether a light is on. -/
theorem run_preset {c : Click} (htoggle : c ≠ .toggleLight) (henable : c ≠ .enable)
    (devices : List Device) (a : App) : (c.run devices a).1 = a ∧
      ∀ i commands, lit i (commands ++ (c.run devices a).2) = lit i commands := by
  have hkeeps : ∀ call : Device → Command, (∀ i b d, Command.apply i b (call d) = b) →
      ∀ i commands, lit i (commands ++ eachDevice devices call) = lit i commands := by
    intro call hcall i commands
    rw [lit_append, eachDevice_eq]
    generalize lit i commands = b
    induction devices with
    | nil => rfl
    | cons d rest ih => rw [List.map_cons, List.foldl_cons, hcall, ih]
  cases c with
  | toggleLight => exact absurd rfl htoggle
  | enable => exact absurd rfl henable
  | brightness level => exact ⟨rfl, hkeeps _ fun _ _ _ => rfl⟩
  | colorTemperature temp => exact ⟨rfl, hkeeps _ fun _ _ _ => rfl⟩

/-- **Undisturbed, the lights follow the cameras.** -/
theorem Undisturbed.follows {store : Store} {lights : List Device} {s s' : Ui}
    (h : Undisturbed store lights s s') (hs : Ui.Inv store s) (hf : Follows lights s) :
    Follows lights s' := by
  obtain ⟨henabled, hlight, hlit⟩ := hf
  cases h with
  | receive sig hidle =>
    have hkeeps := receiveSignal_keeps store sig s.app
    have hdisabled : (receiveSignal store sig s.app).1.disabled = s.app.disabled := by rw [hkeeps]
    have hlightOn : (receiveSignal store sig s.app).1.lightOn = s.app.lightOn := by rw [hkeeps]
    refine ⟨hdisabled.trans henabled, fun hnone => ?_, fun _ d hd => ?_⟩
    · dsimp only
      rw [hlightOn, receiveSignal_idle hnone]
      exact hlight hidle
    · dsimp only
      rw [hlightOn]
      exact hlit hidle d hd
  | @critical c hc =>
    obtain ⟨hon, -, hcmd⟩ := c.run_enabled lights henabled
    obtain ⟨hcameras, hdisabled, -, -⟩ := c.run_keeps lights s.app
    refine ⟨hdisabled.trans henabled, fun _ => ?_, fun _ d hd => ?_⟩
    · dsimp only
      rw [hon, hcameras]
      exact hs.critical_on hc
    · dsimp only
      rw [hcmd, hon]
      exact lit_lights hd s.commands
  | @click c devices _ htoggle henable =>
    obtain ⟨happ, hkeeps⟩ := run_preset htoggle henable devices s.app
    refine ⟨by rw [happ]; exact henabled, fun hidle => ?_, fun hidle d hd => ?_⟩
    · dsimp only
      rw [happ]
      exact hlight hidle
    · dsimp only
      rw [happ, hkeeps]
      exact hlit hidle d hd

end Autolight
