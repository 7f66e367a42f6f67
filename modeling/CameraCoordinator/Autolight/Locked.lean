import CameraCoordinator.Autolight.Ui
import CameraCoordinator.Lib.Mutex

/-!
# Handlers under the mutex

The handlers of `autolight/main.go` statement by statement: `mut` is locked, each call to the tray
or to a light and each assignment is a step, and while one handler is in its section the signal
thread may go on to the next signal and others may come to the lock. `Ui` has a step for a whole
section; `locked_iff`: what it reaches is what is seen here whenever `mut` is free.

A section touches neither the set of cameras nor `received`, and what the signal thread does without
the lock touches nothing else (`movers`).
-/

set_option autoImplicit false

namespace Autolight

open Dbus (Signal Store)

/-! ## The handlers -/

structure Shared where
  app : App
  received : List Signal
  commands : List Command

/-- A handler's result: the application, and the commands it has sent. -/
def Shared.did (x : Shared) (result : App × List Command) : Shared :=
  { x with app := result.1, commands := x.commands ++ result.2 }

/-- The signal thread, and a goroutine for each click. -/
inductive Thread
  | signals
  | click (n : Nat)
  deriving DecidableEq

/-- What a thread locks `mut` for. -/
inductive Section
  | critical (c : Critical)
  | click (c : Click)

/-- The statement a thread in its section is at. -/
inductive At
  -- `handleCameraOn` and `handleCameraOff`
  | setTray (icons : Icons) (toolTip label : String) (on : Bool)
  | setStatus (label : String) (on : Bool)
  | checkDisabled (on : Bool)
  -- `onToggleLightClicked`
  | toggle
  -- `setLights`
  | setLightOn (on : Bool)
  | setToggleLabel (on : Bool)
  -- `onEnableClicked`
  | flipDisabled
  | setEnableLabel
  -- `setLights`, `setBrightness` and `setColorTemperature`
  | listDevices (call : Device → Command)
  | callDevices (call : Device → Command) (devices : List Device)
  | unlock

def Section.enter : Section → At
  | .critical .cameraOn => .setTray .cameraOn "Camera is on." cameraStatusOnLabel true
  | .critical .cameraOff => .setTray .cameraOff "Camera is off." cameraStatusOffLabel false
  | .click .toggleLight => .toggle
  | .click .enable => .flipDisabled
  | .click (.brightness level) => .listDevices fun d => .lightBrightness d.index level
  | .click (.colorTemperature temp) =>
    .listDevices fun d => .lightTemperature d.index (UInt16.ofNat temp)

/-- A statement, with what `lib.ListDevices` returns if it calls that. -/
def statement (devices : List Device) : At → Shared → At × Shared
  | .setTray icons toolTip label on, x =>
    (.setStatus label on,
      { x with app := { x.app with trayIcons := icons, trayToolTip := toolTip } })
  | .setStatus label on, x =>
    (.checkDisabled on, { x with app := { x.app with cameraStatusItem := label } })
  | .checkDisabled on, x => (if !x.app.disabled then .setLightOn on else .unlock, x)
  | .toggle, x => (.setLightOn (!x.app.lightOn), x)
  | .setLightOn on, x => (.setToggleLabel on, { x with app := { x.app with lightOn := on } })
  | .setToggleLabel on, x =>
    let toggleLabel := if on then toggleLightOffLabel else toggleLightOnLabel
    (.listDevices (light on), { x with app := { x.app with toggleLightItem := toggleLabel } })
  | .flipDisabled, x =>
    (.setEnableLabel, { x with app := { x.app with disabled := !x.app.disabled } })
  | .setEnableLabel, x =>
    let label := if x.app.disabled then enableLightControlLabel else disableLightControlLabel
    (.unlock, { x with app := { x.app with enableItem := label } })
  | .listDevices call, x =>
    (if devices.length = 0 then .unlock else .callDevices call devices, x)
  | .callDevices _ [], x => (.unlock, x)
  | .callDevices call (d :: rest), x =>
    (.callDevices call rest, { x with commands := x.commands ++ [call d] })
  | .unlock, x => (.unlock, x)

/-- What a thread does without `mut`: the signal thread receives a signal, another one starts with a
click. -/
inductive Own (store : Store) : Thread → Shared → Option Section → Shared → Prop
  | receive {x : Shared} (sig : Signal) :
      Own store .signals x ((receiveSignal store sig x.app).2.map .critical) { x with
        app := (receiveSignal store sig x.app).1
        received := x.received ++ [sig] }
  | click {x : Shared} {n : Nat} {c : Click} : c ∈ menu →
      Own store (.click n) x (some (.click c)) x

/-- `App.mut` and the threads that lock it. -/
def appMut (store : Store) : Mutex Thread Shared Section At where
  init := ⟨newApp, [], []⟩
  own := Own store
  enter := Section.enter
  inside l x l' y := l ≠ .unlock ∧ ∃ devices, statement devices l x = (l', y)
  exit l := l = .unlock

variable {store : Store}

/-! ## Sections and the set of cameras -/

/-- The state with another set of cameras and other signals received. -/
def Shared.withCameras (x : Shared) (cameras : GoMap GoString Unit) (received : List Signal) :
    Shared :=
  { x with app := { x.app with activeCameras := cameras }, received := received }

/-- No statement reads or writes them. -/
theorem statement_withCameras (devices : List Device) (l : At) (x : Shared)
    (cameras : GoMap GoString Unit) (received : List Signal) :
    statement devices l (x.withCameras cameras received) =
      ((statement devices l x).1, (statement devices l x).2.withCameras cameras received) := by
  cases l with
  | callDevices call ds => cases ds <;> rfl
  | _ => rfl

theorem statement_keeps (devices : List Device) (l : At) (x : Shared) :
    (statement devices l x).2.app.activeCameras = x.app.activeCameras ∧
    (statement devices l x).2.received = x.received := by
  cases l with
  | callDevices call ds => cases ds <;> exact ⟨rfl, rfl⟩
  | _ => exact ⟨rfl, rfl⟩

/-- The receipt of a signal reads and writes nothing else. -/
theorem receiveSignal_cameras (store : Store) (sig : Signal) {a b : App}
    (h : a.activeCameras = b.activeCameras) :
    (receiveSignal store sig a).1.activeCameras = (receiveSignal store sig b).1.activeCameras ∧
    (receiveSignal store sig a).2 = (receiveSignal store sig b).2 := by
  rw [receiveSignal_eq, receiveSignal_eq]
  cases onOff store sig with
  | none => exact ⟨h, rfl⟩
  | some onv =>
    dsimp only
    rw [h]
    exact ⟨rfl, rfl⟩

theorem Shared.received_eq (x : Shared) (sig : Signal) :
    { x with app := (receiveSignal store sig x.app).1, received := x.received ++ [sig] } =
      x.withCameras (receiveSignal store sig x.app).1.activeCameras (x.received ++ [sig]) := by
  unfold Shared.withCameras
  rw [← receiveSignal_keeps]

/-- **What is done without the lock commutes with the statements of the sections.** -/
theorem movers (store : Store) : (appMut store).Movers := by
  refine ⟨fun {l x l' y i o z} hin hown => ?_⟩
  obtain ⟨hne, devices, hst⟩ := hin
  cases hown with
  | click hc => exact ⟨x, .click hc, hne, devices, hst⟩
  | receive sig =>
    obtain ⟨hcam, hrec⟩ := statement_keeps devices l x
    rw [hst] at hcam hrec
    obtain ⟨hcam', hcrit⟩ := receiveSignal_cameras store sig hcam
    have hown : Own store .signals x _ _ := .receive sig
    rw [← hcrit] at hown
    refine ⟨_, hown, hne, devices, ?_⟩
    rw [Shared.received_eq, Shared.received_eq, statement_withCameras, hst, hcam', hrec]

/-! ## What a section does -/

def Section.run (devices : List Device) : Section → App → App × List Command
  | .critical c => c.run devices
  | .click c => c.run devices

/-- The state at the end of a section from a statement of it on. -/
def finish (devices : List Device) : At → Shared → Shared
  | .setTray icons toolTip label on, x => x.did (handleCamera icons toolTip label on devices x.app)
  | .setStatus label on, x =>
    x.did (handleCamera x.app.trayIcons x.app.trayToolTip label on devices x.app)
  | .checkDisabled on, x =>
    x.did (if !x.app.disabled then setLights on devices x.app else (x.app, []))
  | .toggle, x => x.did (onToggleLightClicked devices x.app)
  | .setLightOn on, x => x.did (setLights on devices x.app)
  | .setToggleLabel on, x =>
    (statement devices (.setToggleLabel on) x).2.did
      ((statement devices (.setToggleLabel on) x).2.app, eachDevice devices (light on))
  | .flipDisabled, x => x.did (onEnableClicked x.app)
  | .setEnableLabel, x => (statement devices .setEnableLabel x).2
  | .listDevices call, x => x.did (x.app, eachDevice devices call)
  | .callDevices call ds, x => x.did (x.app, ds.map call)
  | .unlock, x => x

theorem finish_enter (devices : List Device) (s : Section) (x : Shared) :
    finish devices s.enter x = x.did (s.run devices x.app) := by
  cases s with
  | critical c => cases c <;> rfl
  | click c => cases c <;> rfl

/-- A statement is the first of those that are left. -/
theorem finish_statement (devices later : List Device) (l : At) (x : Shared) :
    ∃ ds, finish ds l x = finish later (statement devices l x).1 (statement devices l x).2 := by
  cases l with
  | checkDisabled on =>
    refine ⟨later, ?_⟩
    cases hd : x.app.disabled <;> simp [finish, statement, hd, Shared.did]
  | setToggleLabel on => exact ⟨later, rfl⟩
  | listDevices call =>
    refine ⟨devices, ?_⟩
    by_cases hlen : devices.length = 0 <;> simp [finish, statement, eachDevice, hlen, Shared.did]
  | callDevices call ds =>
    refine ⟨later, ?_⟩
    cases ds <;> simp [finish, statement, Shared.did]
  | setEnableLabel => exact ⟨later, rfl⟩
  | flipDisabled => exact ⟨later, by simp [finish, statement, onEnableClicked, Shared.did]⟩
  | _ => exact ⟨later, rfl⟩

/-- **A section does what its handler does.** -/
theorem finish_of_run {p : At × Shared} {y : Shared} (h : (appMut store).Run p (.unlock, y)) :
    ∃ devices, y = finish devices p.1 p.2 := by
  induction h using Relation.ReflTransGen.head_induction_on with
  | refl => exact ⟨[], rfl⟩
  | @head p q hstep _ ih =>
    obtain ⟨-, devices, hst⟩ := hstep
    obtain ⟨later, hy⟩ := ih
    obtain ⟨ds, hfinish⟩ := finish_statement devices later p.1 p.2
    rw [hst] at hfinish
    exact ⟨ds, hy.trans hfinish.symm⟩

section
variable (store) (devices : List Device)

/-- One statement, and then the others. -/
theorem run_statement {l l' : At} {x x' y : Shared} (hne : l ≠ .unlock)
    (hst : statement devices l x = (l', x')) (h : (appMut store).Run (l', x') (.unlock, y)) :
    (appMut store).Run (l, x) (.unlock, y) :=
  Relation.ReflTransGen.head ⟨hne, devices, hst⟩ h

theorem run_callDevices (call : Device → Command) (ds : List Device) (x : Shared) :
    (appMut store).Run (.callDevices call ds, x)
      (.unlock, finish devices (.callDevices call ds) x) := by
  induction ds generalizing x with
  | nil =>
    have hfinish : finish devices (.callDevices call []) x = x := by simp [finish, Shared.did]
    rw [hfinish]
    exact run_statement store [] (by simp) rfl .refl
  | cons d rest ih =>
    have hrest := ih { x with commands := x.commands ++ [call d] }
    have hfinish : finish devices (.callDevices call rest)
        { x with commands := x.commands ++ [call d] } =
        finish devices (.callDevices call (d :: rest)) x := by
      simp [finish, Shared.did]
    rw [hfinish] at hrest
    exact run_statement store [] (by simp) rfl hrest

theorem run_listDevices (call : Device → Command) (x : Shared) :
    (appMut store).Run (.listDevices call, x) (.unlock, finish devices (.listDevices call) x) := by
  by_cases hlen : devices.length = 0
  · have hfinish : finish devices (.listDevices call) x = x := by
      simp [finish, eachDevice, hlen, Shared.did]
    rw [hfinish]
    exact run_statement store devices (by simp) (by simp [statement, hlen]) .refl
  · have hfinish : finish devices (.listDevices call) x =
        finish devices (.callDevices call devices) x := by
      simp [finish, eachDevice, hlen]
    rw [hfinish]
    exact run_statement store devices (by simp) (by simp [statement, hlen])
      (run_callDevices store devices call devices x)

theorem run_setLights (on : Bool) (x : Shared) :
    (appMut store).Run (.setLightOn on, x) (.unlock, x.did (setLights on devices x.app)) := by
  refine run_statement store [] (by simp) rfl (run_statement store [] (by simp) rfl ?_)
  exact run_listDevices store devices (light on) _

theorem run_checkDisabled (on : Bool) (x : Shared) :
    (appMut store).Run (.checkDisabled on, x) (.unlock, finish devices (.checkDisabled on) x) := by
  cases hd : x.app.disabled with
  | true =>
    have hst : statement [] (.checkDisabled on) x = (.unlock, x) := by simp [statement, hd]
    have hfinish : finish devices (.checkDisabled on) x = x := by simp [finish, hd, Shared.did]
    rw [hfinish]
    exact run_statement store [] (by simp) hst .refl
  | false =>
    have hst : statement [] (.checkDisabled on) x = (.setLightOn on, x) := by simp [statement, hd]
    have hfinish : finish devices (.checkDisabled on) x = x.did (setLights on devices x.app) := by
      simp [finish, hd]
    rw [hfinish]
    exact run_statement store [] (by simp) hst (run_setLights store devices on x)

/-- **From any statement on a section comes to its end.** -/
theorem run_finish (l : At) (x : Shared) :
    (appMut store).Run (l, x) (.unlock, finish devices l x) := by
  cases l with
  | setTray icons toolTip label on =>
    refine run_statement store [] (by simp) rfl (run_statement store [] (by simp) rfl ?_)
    exact run_checkDisabled store devices on _
  | setStatus label on =>
    exact run_statement store [] (by simp) rfl (run_checkDisabled store devices on _)
  | checkDisabled on => exact run_checkDisabled store devices on x
  | toggle => exact run_statement store [] (by simp) rfl (run_setLights store devices _ x)
  | setLightOn on => exact run_setLights store devices on x
  | setToggleLabel on =>
    exact run_statement store [] (by simp) rfl (run_listDevices store devices (light on) _)
  | flipDisabled =>
    refine run_statement store [] (by simp) rfl (run_statement store [] (by simp) rfl ?_)
    have hfinish : finish devices .flipDisabled x =
        (statement [] .setEnableLabel (statement [] .flipDisabled x).2).2 := by
      simp [finish, onEnableClicked, statement, Shared.did]
    rw [hfinish]
    exact .refl
  | setEnableLabel => exact run_statement store [] (by simp) rfl .refl
  | listDevices call => exact run_listDevices store devices call x
  | callDevices call ds => exact run_callDevices store devices call ds x
  | unlock => exact .refl

/-- Whatever devices it lists, a section can do what its handler does. -/
theorem run_enter (s : Section) (x : Shared) :
    (appMut store).Runs s x (x.did (s.run devices x.app)) := by
  refine ⟨.unlock, rfl, ?_⟩
  rw [← finish_enter]
  exact run_finish store devices s.enter x

end

/-! ## What is seen -/

/-- What a thread locks `mut` for. -/
inductive Section.For : Thread → Section → Prop
  | critical (c : Critical) : For .signals (.critical c)
  | click {n : Nat} {c : Click} : c ∈ menu → For (.click n) (.click c)

def Proper (wants : Thread → Option Section) : Prop :=
  ∀ i s, wants i = some s → Section.For i s

theorem Proper.update {wants : Thread → Option Section} (hp : Proper wants) {i : Thread}
    {o : Option Section} (ho : ∀ s, o = some s → Section.For i s) :
    Proper (Function.update wants i o) := by
  intro j s hs
  by_cases hj : j = i
  · rw [hj, Function.update_self] at hs
    exact hj ▸ ho s hs
  · rw [Function.update_of_ne hj] at hs
    exact hp j s hs

def Section.critical? : Section → Option Critical
  | .critical c => some c
  | .click _ => none

/-- The state of `Ui`, in which nobody sees who waits with a click. -/
def view (a : Mutex.Atomic Thread Shared Section) : Ui where
  app := a.shared.app
  thread := (a.wants .signals).bind Section.critical?
  received := a.shared.received
  commands := a.shared.commands

/-- What a click's thread wants is not seen. -/
theorem view_click (x : Shared) (wants : Thread → Option Section) (n : Nat) (o : Option Section) :
    view ⟨x, Function.update wants (.click n) o⟩ = view ⟨x, wants⟩ := by
  unfold view
  dsimp only
  rw [Function.update_of_ne (by simp)]

theorem view_signals (x : Shared) (wants : Thread → Option Section) (o : Option Critical) :
    view ⟨x, Function.update wants .signals (o.map .critical)⟩ =
      { app := x.app, thread := o, received := x.received, commands := x.commands } := by
  unfold view
  dsimp only
  rw [Function.update_self]
  cases o <;> rfl

/-- A step of atomic sections is a step of `Ui`, or a click that waits. -/
theorem view_step {a a' : Mutex.Atomic Thread Shared Section} (hp : Proper a.wants)
    (h : (appMut store).AtomicStep a a') : Proper a'.wants ∧
      Relation.ReflTransGen (fun u u' => ∃ x, Ui.Step store x u u') (view a) (view a') := by
  cases h with
  | @own i o x hi hown =>
    cases hown with
    | receive sig =>
      have hidle : (view a).thread = none := by simp [view, hi]
      refine ⟨hp.update fun s hs => ?_, .single ⟨.signals, ?_⟩⟩
      · obtain ⟨c, -, rfl⟩ := Option.map_eq_some_iff.1 hs
        exact .critical c
      · rw [view_signals]
        exact .receive sig hidle
    | click hc =>
      refine ⟨hp.update fun s hs => ?_, ?_⟩
      · obtain rfl := Option.some.inj hs
        exact .click hc
      · rw [view_click]
  | @runs i s x hi hruns =>
    obtain ⟨l, rfl, hrun⟩ := hruns
    obtain ⟨devices, rfl⟩ := finish_of_run hrun
    refine ⟨hp.update fun s hs => (by cases hs), ?_⟩
    have hfinish : finish devices ((appMut store).enter s) a.shared =
        a.shared.did (s.run devices a.shared.app) := finish_enter devices s a.shared
    dsimp only
    rw [hfinish]
    cases hp i s hi with
    | critical c =>
      have hc : (view a).thread = some c := by simp [view, hi, Section.critical?]
      have hview := view_signals (a.shared.did (c.run devices a.shared.app)) a.wants none
      refine .single ⟨.signals, ?_⟩
      rw [Option.map_none] at hview
      rw [Section.run, hview]
      exact .critical devices hc
    | @click n c hc =>
      refine .single ⟨.clicks, ?_⟩
      rw [view_click]
      exact .click devices hc

theorem reachable_view {a : Mutex.Atomic Thread Shared Section}
    (h : (appMut store).AtomicReachable a) : Proper a.wants ∧ Ui.Reachable store (view a) := by
  refine Relation.ReflTransGen.invariant
    (P := fun a => Proper a.wants ∧ Ui.Reachable store (view a)) h
    ⟨fun i s hs => (by cases hs), .refl⟩ ?_
  rintro a a' hstep ⟨hp, hu⟩
  obtain ⟨hp', hrun⟩ := view_step hp hstep
  exact ⟨hp', hu.trans hrun⟩

/-- The threads of a state of `Ui`. -/
def threads (u : Ui) : Mutex.Atomic Thread Shared Section where
  shared := ⟨u.app, u.received, u.commands⟩
  wants
    | .signals => u.thread.map .critical
    | .click _ => none

@[simp] theorem view_threads (u : Ui) : view (threads u) = u := by
  obtain ⟨app, thread, received, commands⟩ := u
  cases thread <;> rfl

theorem threads_signals (u : Ui) (x : Shared) (o : Option Critical) :
    ⟨x, Function.update (threads u).wants .signals (o.map .critical)⟩ =
      threads ⟨x.app, o, x.received, x.commands⟩ := by
  refine congrArg (Mutex.Atomic.mk x) (funext fun i => ?_)
  cases i with
  | signals => rw [Function.update_self]
  | click n =>
    rw [Function.update_of_ne (by simp)]
    rfl

theorem threads_click (u : Ui) (x : Shared) (n : Nat) :
    ⟨x, Function.update (threads u).wants (.click n) none⟩ =
      threads ⟨x.app, u.thread, x.received, x.commands⟩ := by
  have hself : Function.update (threads u).wants (.click n) none = (threads u).wants :=
    Function.update_eq_self (.click n) (threads u).wants
  rw [hself]
  rfl

/-- A step of `Ui` is one or two of the threads. -/
theorem threads_step {x : Actor} {u u' : Ui} (h : Ui.Step store x u u') :
    Relation.ReflTransGen (appMut store).AtomicStep (threads u) (threads u') := by
  cases h with
  | receive sig hidle =>
    have hwants : (threads u).wants .signals = none := by simp [threads, hidle]
    have hstep : (appMut store).AtomicStep (threads u) _ := .own hwants (.receive sig)
    rw [threads_signals] at hstep
    exact .single hstep
  | @critical _ c devices hc =>
    have hwants : (threads u).wants .signals = some (.critical c) :=
      congrArg (Option.map Section.critical) hc
    have hstep : (appMut store).AtomicStep (threads u) _ :=
      .runs hwants (run_enter store devices (.critical c) _)
    have hto := threads_signals u ((threads u).shared.did (c.run devices u.app)) none
    rw [Option.map_none] at hto
    exact .single (hto ▸ hstep)
  | @click _ c devices hc =>
    have hown : Own store (.click 0) (threads u).shared (some (.click c)) _ := .click hc
    have hown : (appMut store).AtomicStep (threads u) _ := .own rfl hown
    refine (Relation.ReflTransGen.single hown).tail ?_
    have hwants : Function.update (threads u).wants (.click 0) (some (.click c)) (.click 0) =
        some (.click c) := Function.update_self _ _ _
    have hruns : (appMut store).AtomicStep ⟨(threads u).shared,
        Function.update (threads u).wants (.click 0) (some (.click c))⟩ _ :=
      .runs (i := .click 0) hwants (run_enter store devices (.click c) _)
    rw [Function.update_idem, threads_click] at hruns
    exact hruns

/-- **Handlers are atomic.** No two threads are in their sections, and what is seen whenever `mut`
is free is exactly what `Ui` reaches. -/
theorem locked_iff (store : Store) :
    (∀ c, (appMut store).Reachable c → Mutex.Exclusive c) ∧
    ∀ u, Ui.Reachable store u ↔
      ∃ c, (appMut store).Reachable c ∧ c.locked = false ∧ view c.seen = u := by
  refine ⟨fun c hc => Mutex.reachable_exclusive hc, fun u => ⟨fun h => ?_, ?_⟩⟩
  · have hreach : (appMut store).AtomicReachable (threads u) := by
      refine Relation.ReflTransGen.invariant
        (P := fun u => (appMut store).AtomicReachable (threads u)) h ?_ ?_
      · have hidle : (appMut store).idle = threads .init := by
          refine congrArg (Mutex.Atomic.mk _) (funext fun i => ?_)
          cases i <;> rfl
        rw [← hidle]
        exact .refl
      · rintro u u' ⟨x, hstep⟩ hu
        exact hu.trans (threads_step hstep)
    obtain ⟨c, hc, hfree, hseen⟩ := (Mutex.reachable_unlocked_iff (movers store) _).1 hreach
    exact ⟨c, hc, hfree, by rw [hseen, view_threads]⟩
  · rintro ⟨c, hc, hfree, rfl⟩
    exact (reachable_view ((Mutex.reachable_unlocked_iff (movers store) _).2 ⟨c, hc, hfree, rfl⟩)).2

/-- **The user interface is truthful, and answers.** In every state that the threads reach,
statement by statement: while `mut` is free the labels of the two items say what `lightOn` and
`disabled` are, and the camera label what the set of cameras is unless the signal thread is to lock;
and any thread can come to the end of its section, whoever else has locked or waits. -/
theorem locked_truthful (store : Store) (c : Mutex.Config Thread Shared Section At)
    (hc : (appMut store).Reachable c) :
    (c.locked = false →
      (c.shared.app.toggleLightItem = toggleLightOffLabel ↔ c.shared.app.lightOn = true) ∧
      (c.shared.app.enableItem = enableLightControlLabel ↔ c.shared.app.disabled = true) ∧
      (c.place .signals = .outside →
        (c.shared.app.cameraStatusItem = cameraStatusOnLabel ↔
          c.shared.app.activeCameras ≠ ∅) ∧
        (c.shared.app.cameraStatusItem = cameraStatusOffLabel ↔
          c.shared.app.activeCameras = ∅ ∧ Decoded store c.shared.received) ∧
        (c.shared.app.cameraStatusItem = cameraStatusUnknownLabel ↔
          c.shared.app.activeCameras = ∅ ∧ ¬ Decoded store c.shared.received))) ∧
    ∀ i, ∃ c', Relation.ReflTransGen (appMut store).Step c c' ∧ c'.locked = false ∧
      c'.place i = .outside := by
  refine ⟨fun hfree => ?_, fun i => ?_⟩
  · have hreach : (appMut store).AtomicReachable c.seen :=
      (Mutex.reachable_unlocked_iff (movers store) _).2 ⟨c, hc, hfree, rfl⟩
    have hinv := Ui.reachable_inv (reachable_view hreach).2
    refine ⟨hinv.labels.toggle_iff, hinv.labels.enable_iff, fun houtside => ?_⟩
    have hidle : (view c.seen).thread = none := by
      simp [view, Mutex.Config.seen, houtside, Mutex.Place.wants]
    have hcamera := hinv.cameraLabel hidle
    exact ⟨hcamera.on_iff, hcamera.off_iff, hcamera.unknown_iff⟩
  · exact Mutex.exists_outside (fun l x => ⟨.unlock, _, rfl, run_finish store [] l x⟩) hc i

/-- A light is toggled by hand while an On waits for the lock. -/
theorem truthful_after_toggle : ∃ c, (appMut Dbus.storeFields).Reachable c ∧ c.locked = true ∧
    c.place .signals = .waiting (.critical .cameraOn) ∧ c.shared.app.lightOn = true ∧
    c.shared.app.toggleLightItem = toggleLightOnLabel ∧
    ∃ c', Relation.ReflTransGen (appMut Dbus.storeFields).Step c c' ∧ c'.locked = false ∧
      c'.place .signals = .outside := by
  have h0 : (appMut Dbus.storeFields).Reachable (appMut Dbus.storeFields).idle.unlocked := .refl
  have hclick : Own Dbus.storeFields (.click 0) ⟨newApp, [], []⟩ (some (.click .toggleLight)) _ :=
    .click (by decide)
  have h1 := h0.tail (.own rfl hclick)
  have h2 := h1.tail (.lock (i := .click 0) rfl rfl)
  have h3 := h2.tail (.inside (i := .click 0) rfl ⟨show At.toggle ≠ .unlock by simp, [], rfl⟩)
  have h4 := h3.tail (.inside (i := .click 0) rfl
    ⟨show At.setLightOn true ≠ .unlock by simp, [], rfl⟩)
  have hreceive : Own Dbus.storeFields .signals ⟨{ newApp with lightOn := true }, [], []⟩ _ _ :=
    .receive (Dbus.emit (.test cameraEventRecordingOn))
  have h5 := h4.tail (.own rfl hreceive)
  exact ⟨_, h5, rfl, rfl, rfl, rfl, (locked_truthful _ _ h5).2 .signals⟩

end Autolight
