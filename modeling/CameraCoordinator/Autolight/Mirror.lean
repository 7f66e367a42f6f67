import CameraCoordinator.Autolight.Ui
import CameraCoordinator.Coordinator.Level

/-!
# The application and the coordinator

The application keeps a set of cameras of its own, from the signals it receives. It holds a device
exactly if the last On or Off received about it is an On (`mem_cameras_iff`), and so do the
coordinator's levels for what was broadcast; between them, the bus delivers what the notifier emits.

* `autolight_mirrors`: an application that has received all emissions, and possibly signals that it
  rejects, has the devices that are on.
* `late_start_iff`: an application that has received the emissions from some position on shows
  whether a device is on exactly as long as, when one is, one is that it has heard of.
-/

set_option autoImplicit false

namespace Autolight

open Dbus (Signal Store)
open Coord (Received broadcasts typesOf)

/-! ## The set of cameras -/

/-- The On (`true`) and Off signals about a device, in order. -/
def reports (store : Store) (v : GoString) (received : List Signal) : List Bool :=
  received.filterMap fun sig => (onOff store sig).bind fun onv =>
    if onv.2 = v then some onv.1 else none

theorem reports_append (store : Store) (v : GoString) (received later : List Signal) :
    reports store v (received ++ later) = reports store v received ++ reports store v later :=
  List.filterMap_append

theorem reports_snoc (store : Store) (v : GoString) (received : List Signal) (sig : Signal) :
    reports store v (received ++ [sig]) = reports store v received ++
      ((onOff store sig).bind fun onv => if onv.2 = v then some onv.1 else none).toList := by
  simp only [reports, List.filterMap_append, List.filterMap_cons, List.filterMap_nil]
  split <;> rename_i h <;> simp [h]

/-- The set of cameras holds a device exactly if the last report about it is an On. -/
def Reported (store : Store) (v : GoString) (s : Ui) : Prop :=
  v ∈ s.app.activeCameras ↔ (reports store v s.received).getLast? = some true

/-- Receiving a signal adds its report, and nothing else touches the set. -/
theorem Reported.step {store : Store} {v : GoString} {a : Actor} {s s' : Ui}
    (h : Ui.Step store a s s') (hs : Reported store v s) : Reported store v s' := by
  unfold Reported at *
  cases h with
  | receive sig _ =>
    dsimp only
    rw [receiveSignal_eq, reports_snoc]
    cases ho : onOff store sig with
    | none => simpa using hs
    | some onv =>
      obtain ⟨on, v'⟩ := onv
      dsimp only [Option.bind_some]
      rw [mem_setCamera]
      by_cases hv : v = v'
      · simp [hv]
      · rw [if_neg hv, if_neg (Ne.symm hv), hs]
        simp
  | @critical _ c devices _ =>
    dsimp only
    rw [(c.run_keeps devices s.app).1]
    exact hs
  | @click _ c devices _ =>
    dsimp only
    rw [(c.run_keeps devices s.app).1]
    exact hs

theorem mem_cameras_iff {store : Store} {s : Ui} (hs : Ui.Reachable store s) (v : GoString) :
    v ∈ s.app.activeCameras ↔ (reports store v s.received).getLast? = some true := by
  have hinit : Reported store v .init :=
    iff_of_false Finmap.notMem_empty (by simp [Ui.init, reports])
  exact hs.invariant_labelled hinit Reported.step

/-! ## Emissions among other signals -/

/-- The signals that `handleSignal` rejects. -/
inductive Rejected (store : Store) : Signal → Prop
  | empty : Rejected store ⟨[]⟩
  | string {s : GoString} {rest : List Dbus.Value} : Rejected store ⟨.string s :: rest⟩
  | uint32 {n : UInt32} {rest : List Dbus.Value} : Rejected store ⟨.uint32 n :: rest⟩
  | other {text : GoString} {rest : List Dbus.Value} : Rejected store ⟨.other text :: rest⟩
  | refused {fields rest : List Dbus.Value} {err : GoString} : store fields = .error err →
      Rejected store ⟨.struct fields :: rest⟩
  | unknownType {fields rest : List Dbus.Value} {body : Dbus.DBusNotifierSignalBody} :
      store fields = .ok body → body.type ≠ cameraEventRecordingOn →
      body.type ≠ cameraEventRecordingOff → Rejected store ⟨.struct fields :: rest⟩

theorem Rejected.onOff_eq {store : Store} {sig : Signal} (h : Rejected store sig) :
    onOff store sig = none := by
  cases h with
  | refused hf => simp [onOff, decode, hf]
  | unknownType hf hon hoff => simp [onOff, decode, hf, hon, hoff]
  | _ => rfl

/-- The signals emitted for the events, each once and in order, mixed with rejected ones. -/
inductive Mixed (store : Store) : List CameraEvent → List Signal → Prop
  | nil : Mixed store [] []
  | emitted {es : List CameraEvent} {sigs : List Signal} (e : CameraEvent) :
      Mixed store es sigs → Mixed store (es ++ [e]) (sigs ++ [Dbus.emit e])
  | foreign {es : List CameraEvent} {sigs : List Signal} {sig : Signal} : Rejected store sig →
      Mixed store es sigs → Mixed store es (sigs ++ [sig])

theorem mixed_emit (store : Store) (es : List CameraEvent) :
    Mixed store es (es.map Dbus.emit) := by
  induction es using List.reverseRecOn with
  | nil => exact .nil
  | append_singleton es e ih =>
    rw [List.map_append]
    exact .emitted e ih

/-- Events of the types On and Off. -/
def OnsAndOffs (es : List CameraEvent) : Prop :=
  ∀ e ∈ es, e.type = cameraEventRecordingOn ∨ e.type = cameraEventRecordingOff

/-- What the signal of an event is decoded to. -/
theorem onOff_emit {store : Store} (hstore : store.Faithful) {e : CameraEvent}
    (he : e.type = cameraEventRecordingOn ∨ e.type = cameraEventRecordingOff) :
    onOff store (Dbus.emit e) = some (e.type == cameraEventRecordingOn, e.videoDevice) := by
  have hfields := hstore (Dbus.signalBody e)
  have hdec : decode store (Dbus.emit e) = some (Dbus.signalBody e) := by
    simp [decode, Dbus.emit, hfields]
  unfold onOff
  rw [hdec]
  dsimp only [Dbus.signalBody]
  rcases he with he | he
  · simp [he]
  · rw [he, if_neg (by decide), if_pos rfl]
    rfl

/-- The reports of the signals are the types of the emitted events. -/
theorem reports_mixed {store : Store} (hstore : store.Faithful) {es : List CameraEvent}
    {sigs : List Signal} (hmix : Mixed store es sigs) (hes : OnsAndOffs es) (v : GoString) :
    reports store v sigs = (typesOf v es).map (· == cameraEventRecordingOn) := by
  induction hmix with
  | nil => rfl
  | @emitted es sigs e _ ih =>
    have ih := ih fun e' he' => hes e' (List.mem_append_left _ he')
    rw [reports_snoc, Coord.typesOf_append, List.map_append, ih,
      onOff_emit hstore (hes e (by simp))]
    by_cases hv : e.videoDevice = v <;> simp [typesOf, hv]
  | @foreign es sigs sig hrej _ ih =>
    rw [reports_snoc, ih hes, hrej.onOff_eq]
    simp

/-- An application that has received the signals of the events has the devices whose last event is
an On. -/
theorem mem_cameras_mixed {store : Store} (hstore : store.Faithful) {es : List CameraEvent} {s : Ui}
    (hs : Ui.Reachable store s) (hmix : Mixed store es s.received) (hes : OnsAndOffs es)
    (v : GoString) : v ∈ s.app.activeCameras ↔
      (typesOf v es).getLast? = some cameraEventRecordingOn := by
  rw [mem_cameras_iff hs, reports_mixed hstore hmix hes, List.getLast?_map]
  cases (typesOf v es).getLast? <;> simp

/-! ## The coordinator's side -/

theorem onsAndOffs_broadcasts (h : List Received) : OnsAndOffs (broadcasts h) := by
  unfold OnsAndOffs
  rw [Coord.broadcasts_eq_edgeEvents]
  refine Mealy.forall_mem_out fun p r e he => ?_
  have hmem : Coord.edgeEvent p r = some e := by simpa [Mealy.ofHist] using he
  unfold Coord.edgeEvent at hmem
  split at hmem
  · cases hmem
  · obtain ⟨rise, -, rfl⟩ := Option.map_eq_some_iff.1 hmem
    cases rise
    · exact .inr rfl
    · exact .inl rfl

/-- `active[v]` is not empty. -/
def DeviceOn (h : List Received) (v : GoString) : Prop := GoMap.get (Coord.active h) v ≠ ∅

instance (h : List Received) (v : GoString) : Decidable (DeviceOn h v) :=
  inferInstanceAs (Decidable (_ ≠ _))

theorem deviceOn_iff (h : List Received) (v : GoString) : DeviceOn h v ↔
    (typesOf v (broadcasts h)).getLast? = some cameraEventRecordingOn := by
  rw [Coord.getLast_broadcasts_iff, Coord.level_iff]
  unfold DeviceOn
  constructor
  · intro hne
    by_contra hmem
    exact hne (GoMap.get_of_lookup_none (Finmap.lookup_eq_none.2 hmem))
  · intro hmem
    obtain ⟨detectors, hd⟩ := Finmap.mem_iff.1 hmem
    rw [GoMap.get_of_lookup hd]
    exact GoMap.ne_empty_iff.2 (Coord.active_wf h v detectors hd).nonempty

/-- **Autolight mirrors the coordinator.** Whatever the events and whatever clicks there were, once
the application has handled the signals of all emissions so far, among others that it rejects, its
set of cameras is the set of devices that are on, and the camera label is On exactly if there is
one. -/
theorem autolight_mirrors (store : Store) (hstore : store.Faithful) (h : List Received) (s : Ui)
    (hs : Ui.Reachable store s) (hidle : s.thread = none)
    (hmix : Mixed store (broadcasts h) s.received) :
    (∀ v, v ∈ s.app.activeCameras ↔ DeviceOn h v) ∧
    (s.app.cameraStatusItem = cameraStatusOnLabel ↔ ∃ v, DeviceOn h v) := by
  have hmem : ∀ v, v ∈ s.app.activeCameras ↔ DeviceOn h v := fun v => by
    rw [mem_cameras_mixed hstore hs hmix (onsAndOffs_broadcasts h), deviceOn_iff]
  refine ⟨hmem, ?_⟩
  rw [((Ui.reachable_inv hs).cameraLabel hidle).on_iff, GoMap.ne_empty_iff]
  exact exists_congr hmem

/-- An event of the coordinator's tests, about another device. -/
def onDevice (v : String) (type : CameraEventType) : Received :=
  ⟨{ CameraEvent.test type with videoDevice := goString v }, .ok .capture⟩

/-- The signals of an On, and one of an unknown type. -/
theorem mirrors_first_camera : ∃ s, Ui.Reachable Dbus.storeFields s ∧ s.thread = none ∧
    s.received.length = 2 ∧
    ∀ v, v ∈ s.app.activeCameras ↔ DeviceOn [onDevice "video0" cameraEventRecordingOn] v := by
  have h0 : Ui.Reachable Dbus.storeFields .init := .refl
  have h1 := h0.tail ⟨_, .receive (Dbus.emit (.test 7)) rfl⟩
  have h2 := h1.tail ⟨_, .receive (Dbus.emit (Coord.emission cameraEventRecordingOn
    (.test cameraEventRecordingOn) .capture)) rfl⟩
  have h3 := h2.tail ⟨_, .critical (c := .cameraOn) [⟨0⟩] rfl⟩
  have hrej : Rejected Dbus.storeFields (Dbus.emit (.test 7)) :=
    .unknownType rfl (by decide) (by decide)
  have hmix : Mixed Dbus.storeFields _ _ := .emitted (Coord.emission cameraEventRecordingOn
    (.test cameraEventRecordingOn) .capture) (.foreign hrej .nil)
  exact ⟨_, h3, rfl, rfl, (autolight_mirrors _ Dbus.storeFields_faithful
    [onDevice "video0" cameraEventRecordingOn] _ h3 rfl hmix).1⟩

/-! ## Started late -/

/-- The signals received by an application that is started at position `k` of the emissions, once
the events `p` are received by the coordinator. -/
def late (k : Nat) (p : List Received) : List Signal := ((broadcasts p).drop k).map Dbus.emit

/-- A device that is on has been heard of. -/
def HeardOf (k : Nat) (p : List Received) : Prop :=
  ∃ e ∈ (broadcasts p).drop k, DeviceOn p e.videoDevice

/-- The application that is started at `k` is right at `p`: once it has handled its signals the
label is On exactly if a device is on, and it is not about to run `handleCameraOff` while one is. -/
def Right (store : Store) (k : Nat) (p : List Received) : Prop :=
  ∀ s, Ui.Reachable store s → s.received = late k p →
    (s.thread = none →
      (s.app.cameraStatusItem = cameraStatusOnLabel ↔ ∃ v, DeviceOn p v)) ∧
    (s.thread = some .cameraOff → ∀ v, ¬ DeviceOn p v)

/-- Any signals can be handled one after another. -/
theorem exists_handled (store : Store) (sigs : List Signal) :
    ∃ s, Ui.Reachable store s ∧ s.thread = none ∧ s.received = sigs := by
  induction sigs using List.reverseRecOn with
  | nil => exact ⟨.init, .refl, rfl, rfl⟩
  | append_singleton sigs sig ih =>
    obtain ⟨s, hs, hidle, hrec⟩ := ih
    have hreceive : Ui.Step store .signals s _ := .receive sig hidle
    have hs' := hs.tail ⟨_, hreceive⟩
    cases hthread : (receiveSignal store sig s.app).2 with
    | none => exact ⟨_, hs', hthread, by rw [hrec]⟩
    | some c => exact ⟨_, hs'.tail ⟨_, .critical [] hthread⟩, rfl, by rw [hrec]⟩

/-- The last event about a device is the last one from position `k` on, if there is one. -/
theorem getLast_typesOf (v : GoString) (es : List CameraEvent) (k : Nat) :
    (typesOf v es).getLast? =
      ((typesOf v (es.drop k)).getLast?).or (typesOf v (es.take k)).getLast? := by
  rw [← List.getLast?_append, ← Coord.typesOf_append, List.take_append_drop]

/-- The late application has cameras exactly if it has heard of a device that is on. -/
theorem cameras_late {store : Store} (hstore : store.Faithful) {k : Nat} {p : List Received}
    {s : Ui} (hs : Ui.Reachable store s) (hrec : s.received = late k p) :
    s.app.activeCameras ≠ ∅ ↔ HeardOf k p := by
  have hes : OnsAndOffs ((broadcasts p).drop k) := fun e he =>
    onsAndOffs_broadcasts p e (List.mem_of_mem_drop he)
  have hmix : Mixed store ((broadcasts p).drop k) s.received := hrec ▸ mixed_emit store _
  have hmem := mem_cameras_mixed hstore hs hmix hes
  rw [GoMap.ne_empty_iff]
  constructor
  · rintro ⟨v, hv⟩
    have hlast := (hmem v).1 hv
    obtain ⟨e, he, -⟩ := List.mem_map.1 (List.mem_of_getLast? hlast)
    obtain ⟨he, hev⟩ := List.mem_filter.1 he
    refine ⟨e, he, (deviceOn_iff p _).2 ?_⟩
    rw [beq_iff_eq.1 hev, getLast_typesOf v _ k, hlast]
    rfl
  · rintro ⟨e, he, hon⟩
    refine ⟨e.videoDevice, (hmem _).2 ?_⟩
    have hne : typesOf e.videoDevice ((broadcasts p).drop k) ≠ [] := by
      have hmem : e.type ∈ typesOf e.videoDevice ((broadcasts p).drop k) :=
        List.mem_map_of_mem (List.mem_filter.2 ⟨he, by simp⟩)
      exact List.ne_nil_of_mem hmem
    have hon := (deviceOn_iff p _).1 hon
    rw [getLast_typesOf _ _ k, List.getLast?_eq_some_getLast hne] at hon
    rw [List.getLast?_eq_some_getLast hne]
    exact hon

/-- What the late application shows. -/
theorem label_late {store : Store} (hstore : store.Faithful) {k : Nat} {p : List Received} {s : Ui}
    (hs : Ui.Reachable store s) (hidle : s.thread = none) (hrec : s.received = late k p) :
    s.app.cameraStatusItem = cameraStatusOnLabel ↔ HeardOf k p := by
  rw [((Ui.reachable_inv hs).cameraLabel hidle).on_iff, cameras_late hstore hs hrec]

/-- It is right exactly if it has heard of a device that is on whenever there is one. -/
theorem right_iff {store : Store} (hstore : store.Faithful) {k : Nat} {p : List Received} :
    Right store k p ↔ ((∃ v, DeviceOn p v) → HeardOf k p) := by
  constructor
  · intro hright hon
    obtain ⟨s, hs, hidle, hrec⟩ := exists_handled store (late k p)
    rw [← label_late hstore hs hidle hrec, (hright s hs hrec).1 hidle]
    exact hon
  · intro hheard s hs hrec
    refine ⟨fun hidle => ?_, fun hoff v hon => ?_⟩
    · rw [label_late hstore hs hidle hrec]
      exact ⟨fun ⟨e, _, hon⟩ => ⟨_, hon⟩, hheard⟩
    · have hne := (cameras_late hstore hs hrec).2 (hheard ⟨v, hon⟩)
      cases ((Ui.reachable_inv hs).critical_on hoff).2 hne

/-- **When a late application is right.** Over every run of the coordinator and from every start in
its emissions: the application is right after every signal exactly if, whenever a device is on then,
one of those that are on has been reported since the start. -/
theorem late_start_iff (store : Store) (hstore : store.Faithful) (h : List Received) (k : Nat) :
    (∀ p, p <+: h → k < (broadcasts p).length → Right store k p) ↔
      ∀ p, p <+: h → k < (broadcasts p).length → (∃ v, DeviceOn p v) →
        ∃ e ∈ (broadcasts p).drop k, DeviceOn p e.videoDevice :=
  forall_congr' fun _ => forall_congr' fun _ => forall_congr' fun _ => right_iff hstore

/-- If no device was on when the application was started, it has heard of those that are on. -/
theorem heardOf_of_idle {p₀ p : List Received} (hp : p₀ <+: p) (hoff : ∀ v, ¬ DeviceOn p₀ v)
    (hon : ∃ v, DeviceOn p v) : HeardOf (broadcasts p₀).length p := by
  obtain ⟨v, hv⟩ := hon
  obtain ⟨es, hes⟩ : broadcasts p₀ <+: broadcasts p := Coord.run.out_prefix ∅ hp
  have hlast := (deviceOn_iff p v).1 hv
  have hbefore := mt (deviceOn_iff p₀ v).2 (hoff v)
  rw [← hes, Coord.typesOf_append, List.getLast?_append] at hlast
  have hlater : (typesOf v es).getLast? = some cameraEventRecordingOn := by
    cases h : (typesOf v es).getLast? with
    | none =>
      rw [h, Option.none_or] at hlast
      exact absurd hlast hbefore
    | some type =>
      rw [h, Option.some_or] at hlast
      exact hlast
  -- the signal of that On has been received
  obtain ⟨e, he, -⟩ := List.mem_map.1 (List.mem_of_getLast? hlater)
  obtain ⟨he, hev⟩ := List.mem_filter.1 he
  refine ⟨e, ?_, (beq_iff_eq.1 hev).symm ▸ hv⟩
  rw [← hes, List.drop_left]
  exact he

/-- An application that is started while no device is on is right from then on. -/
theorem right_of_idle {store : Store} (hstore : store.Faithful) {p₀ p : List Received}
    (hp : p₀ <+: p) (hoff : ∀ v, ¬ DeviceOn p₀ v) : Right store (broadcasts p₀).length p :=
  (right_iff hstore).2 (heardOf_of_idle hp hoff)

/-- Two cameras are on, the application is started, and one of them is turned off: the label says
that the camera is off, and the light is turned off. -/
theorem late_off_while_on : ∃ s, Ui.Reachable Dbus.storeFields s ∧ s.thread = none ∧
    s.received = late 2 [onDevice "video0" cameraEventRecordingOn,
      onDevice "video1" cameraEventRecordingOn, onDevice "video1" cameraEventRecordingOff] ∧
    s.app.cameraStatusItem = cameraStatusOffLabel ∧ s.commands = [.lightOff 0] ∧
    DeviceOn [onDevice "video0" cameraEventRecordingOn, onDevice "video1" cameraEventRecordingOn,
      onDevice "video1" cameraEventRecordingOff] (goString "video0") := by
  have h0 : Ui.Reachable Dbus.storeFields .init := .refl
  have h1 := h0.tail ⟨_, .receive (Dbus.emit (Coord.emission cameraEventRecordingOff
    (onDevice "video1" cameraEventRecordingOff).ev .capture)) rfl⟩
  have h2 := h1.tail ⟨_, .critical (c := .cameraOff) [⟨0⟩] rfl⟩
  exact ⟨_, h2, rfl, by rfl, rfl, rfl, by decide⟩

/-- One camera is on, the application is started, another is turned on, and the first one off. -/
theorem late_other_off_right : Right Dbus.storeFields 1 [onDevice "video0" cameraEventRecordingOn,
    onDevice "video1" cameraEventRecordingOn, onDevice "video0" cameraEventRecordingOff] := by
  refine (late_start_iff _ Dbus.storeFields_faithful _ 1).2 ?_ _ (List.prefix_refl _) (by decide)
  intro p hp hlen _
  have htake := List.prefix_iff_eq_take.1 hp
  have hle : p.length ≤ 3 := hp.length_le
  obtain hl | hl | hl : p.length ≤ 1 ∨ p.length = 2 ∨ p.length = 3 := by omega
  · have hshort := Mealy.out_length_le (m := Coord.run) (fun _ _ => Option.length_toList_le) ∅ p
    have hlen : 1 < (Coord.run.out ∅ p).length := hlen
    omega
  · rw [htake, hl]
    decide
  · rw [htake, hl]
    decide

end Autolight
