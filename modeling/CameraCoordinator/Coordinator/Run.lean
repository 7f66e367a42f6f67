import CameraCoordinator.Event
import CameraCoordinator.Lib.GoMap
import CameraCoordinator.Lib.Mealy

/-!
# The coordinator's loop on one event

`Coord.onEvent` is the body of the `select` case of `CameraCoordinator.Run` that receives an event:
it takes the local map `active`, the event and the answer of its `queryV4L2Cap` call to the new
`active` and the event handed to `broadcastEvent`, if any. `Coord.run` is the loop over a sequence
of events on a context that is not cancelled; the concurrent loop (`FanOut`) uses `onEvent` too.

* `Tracks active v d`: the Go expression `active[v][d]` is true.
* `Active.Wf`: no inner map of `active` is empty or holds a `false`; kept by `onEvent`
  (`onEvent_wf`), so it holds throughout a run (`active_wf`).
* `tracks_onEvent`, `onEvent_emits`: what one event does to `Tracks`, and what it broadcasts.
-/

set_option autoImplicit false

namespace Coord

/-- `map[string]map[string]bool`: the detectors that are on, per video device. -/
abbrev Active := GoMap GoString (GoMap GoString Bool)

/-- The message of a Go `error`. -/
abbrev GoError := GoString

/-- An event received from the events channel, and the answer of `queryV4L2Cap` for it. -/
structure Received where
  ev : CameraEvent
  query : Except GoError V4L2Capability

/-- The event the coordinator broadcasts on behalf of `ev`. -/
def emission (type : CameraEventType) (ev : CameraEvent) (cap : V4L2Capability) : CameraEvent where
  detector := goString "coordinator"
  type := type
  videoDevice := ev.videoDevice
  card := cap.cardString
  busInfo := cap.busInfoString

/-- `case CameraEventRecordingOn`. -/
def onRecordingOn (active : Active) (ev : CameraEvent) (cap : V4L2Capability) :
    Active × Option CameraEvent :=
  let active :=
    if active.lookup ev.videoDevice = none then active.insert ev.videoDevice ∅ else active
  let detectors := GoMap.get active ev.videoDevice
  if GoMap.get detectors ev.detector then (active, none)
  else
    let wasEmpty := GoMap.len detectors == 0
    let active := active.insert ev.videoDevice (detectors.insert ev.detector true)
    if wasEmpty then (active, some (emission cameraEventRecordingOn ev cap)) else (active, none)

/-- `case CameraEventRecordingOff`. -/
def onRecordingOff (active : Active) (ev : CameraEvent) (cap : V4L2Capability) :
    Active × Option CameraEvent :=
  match active.lookup ev.videoDevice with
  | none => (active, none)
  | some detectors =>
    if !GoMap.get detectors ev.detector then (active, none)
    else
      -- `detectors` is the map stored in `active`, so the delete shows there too
      let detectors := detectors.erase ev.detector
      let active := active.insert ev.videoDevice detectors
      if GoMap.len detectors = 0 then
        (active.erase ev.videoDevice, some (emission cameraEventRecordingOff ev cap))
      else (active, none)

/-- The body of `Run`'s loop for a received event. -/
def onEvent (active : Active) (r : Received) : Active × Option CameraEvent :=
  match r.query with
  | .error _ => (active, none)
  | .ok cap =>
    if !cap.hasCapabilities [v4l2CapVideoCapture] then (active, none)
    else if r.ev.type = cameraEventRecordingOn then onRecordingOn active r.ev cap
    else if r.ev.type = cameraEventRecordingOff then onRecordingOff active r.ev cap
    else (active, none)

/-- `Run` over a sequence of events, never cancelled: the state is `active`, the outputs are the
events broadcast. -/
def run : Mealy Active Received CameraEvent where
  step active r := ((onEvent active r).1, (onEvent active r).2.toList)

/-- `active` after the events. -/
def active (h : List Received) : Active := run.state ∅ h

/-- What is broadcast for the events, in order. -/
def broadcasts (h : List Received) : List CameraEvent := run.out ∅ h

@[simp] theorem active_nil : active [] = ∅ := rfl

@[simp] theorem broadcasts_nil : broadcasts [] = [] := rfl

theorem active_snoc (h : List Received) (r : Received) :
    active (h ++ [r]) = (onEvent (active h) r).1 := run.state_snoc ∅ h r

theorem broadcasts_snoc (h : List Received) (r : Received) :
    broadcasts (h ++ [r]) = broadcasts h ++ (onEvent (active h) r).2.toList := run.out_snoc ∅ h r

/-! ## The tracked detectors -/

/-- `active[v][d]`: detector `d` is on for device `v`. -/
def Tracks (active : Active) (v d : GoString) : Prop :=
  GoMap.get (GoMap.get active v) d = true

instance (active : Active) (v d : GoString) : Decidable (Tracks active v d) :=
  inferInstanceAs (Decidable (_ = true))

/-- An inner map of `active`: not empty, and only detectors that are on are stored. -/
structure DetectorsWf (detectors : GoMap GoString Bool) : Prop where
  nonempty : ∃ d, d ∈ detectors
  on : ∀ d b, detectors.lookup d = some b → b = true

/-- Every inner map of `active` is well formed. -/
def Active.Wf (active : Active) : Prop := ∀ v s, active.lookup v = some s → DetectorsWf s

theorem tracks_iff {active : Active} {v d : GoString} :
    Tracks active v d ↔ ∃ s, active.lookup v = some s ∧ s.lookup d = some true := by
  unfold Tracks
  rw [GoMap.get_eq_true]
  cases hv : active.lookup v with
  | none => simp [GoMap.get_of_lookup_none hv, default]
  | some s => simp [GoMap.get_of_lookup hv]

@[simp] theorem not_tracks_empty (v d : GoString) : ¬ Tracks ∅ v d := by
  simp [tracks_iff]

theorem Active.Wf.empty : Active.Wf ∅ := by simp [Active.Wf]

/-- In a well-formed `active`, an inner map holds exactly the detectors that are on. -/
theorem Active.Wf.mem_iff {active : Active} (hwf : active.Wf) {v d : GoString} :
    Tracks active v d ↔ ∃ s, active.lookup v = some s ∧ d ∈ s := by
  rw [tracks_iff]
  refine exists_congr fun s => and_congr_right fun hs => ?_
  rw [Finmap.mem_iff]
  refine ⟨fun h => ⟨_, h⟩, fun ⟨b, hb⟩ => ?_⟩
  rw [hb, (hwf v s hs).on d b hb]

/-- In a well-formed `active`, a device has an entry exactly when some detector is on for it. -/
theorem Active.Wf.mem_keys {active : Active} (hwf : active.Wf) {v : GoString} :
    v ∈ active ↔ ∃ d, Tracks active v d := by
  simp only [hwf.mem_iff, Finmap.mem_iff]
  exact ⟨fun ⟨s, hs⟩ => let ⟨d, hd⟩ := (hwf v s hs).nonempty; ⟨d, s, hs, Finmap.mem_iff.1 hd⟩,
    fun ⟨_, s, hs, _⟩ => ⟨s, hs⟩⟩

theorem Active.Wf.insert {active : Active} (hwf : active.Wf) {v : GoString}
    {s : GoMap GoString Bool} (hs : DetectorsWf s) : Active.Wf (Finmap.insert v s active) := by
  intro v' s' hs'
  rw [GoMap.lookup_insert_eq] at hs'
  split at hs'
  · cases hs'; exact hs
  · exact hwf v' s' hs'

theorem Active.Wf.erase {active : Active} (hwf : active.Wf) (v : GoString) :
    Active.Wf (Finmap.erase v active) := by
  intro v' s hs
  rw [GoMap.lookup_erase_eq] at hs
  split at hs
  · cases hs
  · exact hwf v' s hs

/-! ## One event -/

theorem tracks_insert {active : Active} {v v' d : GoString} {s : GoMap GoString Bool} :
    Tracks (active.insert v s) v' d ↔
      if v' = v then s.lookup d = some true else Tracks active v' d := by
  simp only [tracks_iff, GoMap.lookup_insert_eq]
  split <;> simp

theorem tracks_erase {active : Active} {v v' d : GoString} :
    Tracks (active.erase v) v' d ↔ v' ≠ v ∧ Tracks active v' d := by
  simp only [tracks_iff, GoMap.lookup_erase_eq]
  split <;> simp_all

/-- The lazily created inner map is overwritten by the insert, or was there already. -/
theorem onRecordingOn_eq (active : Active) (ev : CameraEvent) (cap : V4L2Capability) :
    onRecordingOn active ev cap =
      if Tracks active ev.videoDevice ev.detector then (active, none)
      else (active.insert ev.videoDevice
          ((GoMap.get active ev.videoDevice).insert ev.detector true),
        if GoMap.len (GoMap.get active ev.videoDevice) = 0 then
          some (emission cameraEventRecordingOn ev cap) else none) := by
  cases hv : active.lookup ev.videoDevice with
  | none =>
    have hnew : GoMap.get (active.insert ev.videoDevice ∅) ev.videoDevice = ∅ :=
      GoMap.get_of_lookup (Finmap.lookup_insert _)
    have hold : GoMap.get active ev.videoDevice = ∅ := GoMap.get_of_lookup_none hv
    have hoff : ¬ Tracks active ev.videoDevice ev.detector := by simp [tracks_iff, hv]
    rw [if_neg hoff, hold]
    simp [onRecordingOn, hv, hnew, GoMap.get_eq_true, GoMap.len]
  | some s =>
    have ht : GoMap.get (GoMap.get active ev.videoDevice) ev.detector = true ↔
        Tracks active ev.videoDevice ev.detector := Iff.rfl
    simp only [onRecordingOn, hv, reduceCtorEq, if_false, ht, beq_iff_eq]
    split
    · rfl
    · split <;> rfl

theorem tracks_onRecordingOn {active : Active} {ev : CameraEvent} {cap : V4L2Capability}
    {v d : GoString} : Tracks (onRecordingOn active ev cap).1 v d ↔
      Tracks active v d ∨ (v = ev.videoDevice ∧ d = ev.detector) := by
  rw [onRecordingOn_eq]
  split
  · rename_i ht
    exact ⟨.inl, fun h => h.elim id fun ⟨hv, hd⟩ => hv ▸ hd ▸ ht⟩
  · rw [tracks_insert, GoMap.lookup_insert_eq, Tracks, GoMap.get_eq_true]
    by_cases hv : v = ev.videoDevice
    · subst hv
      by_cases hd : d = ev.detector <;> simp [hd]
    · simp [hv]

/-- The inner map that loses its last detector is deleted. -/
theorem onRecordingOff_eq (active : Active) (ev : CameraEvent) (cap : V4L2Capability) :
    onRecordingOff active ev cap =
      if Tracks active ev.videoDevice ev.detector then
        let detectors := (GoMap.get active ev.videoDevice).erase ev.detector
        if GoMap.len detectors = 0 then
          (active.erase ev.videoDevice, some (emission cameraEventRecordingOff ev cap))
        else (active.insert ev.videoDevice detectors, none)
      else (active, none) := by
  unfold onRecordingOff
  cases hs : active.lookup ev.videoDevice with
  | none => simp [tracks_iff, hs]
  | some s =>
    have ht : GoMap.get s ev.detector = true ↔ Tracks active ev.videoDevice ev.detector := by
      rw [GoMap.get_eq_true, tracks_iff]
      simp [hs]
    simp only [Bool.not_eq_true', Bool.eq_false_iff, ne_eq, ht, ite_not, GoMap.get_of_lookup hs,
      GoMap.erase_insert_self]

theorem tracks_onRecordingOff {active : Active} {ev : CameraEvent} {cap : V4L2Capability}
    {v d : GoString} : Tracks (onRecordingOff active ev cap).1 v d ↔
      Tracks active v d ∧ ¬ (v = ev.videoDevice ∧ d = ev.detector) := by
  rw [onRecordingOff_eq]
  split
  · have hrest : ∀ d, ((GoMap.get active ev.videoDevice).erase ev.detector).lookup d = some true ↔
        Tracks active ev.videoDevice d ∧ d ≠ ev.detector := by
      intro d
      rw [GoMap.lookup_erase_eq, Tracks, GoMap.get_eq_true]
      split <;> simp_all
    dsimp only
    split
    · rename_i hlen
      rw [GoMap.len_eq_zero] at hlen
      rw [tracks_erase]
      by_cases hv : v = ev.videoDevice
      · have := (hrest d).2.mt (by simp [hlen])
        subst hv
        simpa using this
      · simp [hv]
    · rw [tracks_insert, hrest]
      by_cases hv : v = ev.videoDevice
      · subst hv; simp
      · simp [hv]
  · rename_i ht
    exact ⟨fun h => ⟨h, fun ⟨hv, hd⟩ => ht (hv ▸ hd ▸ h)⟩, And.left⟩

/-- Whether `onEvent` acts on the event: the query succeeds with `V4L2CapVideoCapture`, and the
type is On or Off. -/
def Received.accepted (r : Received) : Bool :=
  match r.query with
  | .error _ => false
  | .ok cap => cap.hasCapabilities [v4l2CapVideoCapture] &&
    (r.ev.type == cameraEventRecordingOn || r.ev.type == cameraEventRecordingOff)

/-- The four ways through the body of the loop. -/
theorem onEvent_cases (r : Received) :
    (r.accepted = false ∧ ∀ active, onEvent active r = (active, none)) ∨
    ∃ cap, r.accepted = true ∧ r.query = .ok cap ∧
      ((r.ev.type = cameraEventRecordingOn ∧
          ∀ active, onEvent active r = onRecordingOn active r.ev cap) ∨
        (r.ev.type = cameraEventRecordingOff ∧
          ∀ active, onEvent active r = onRecordingOff active r.ev cap)) := by
  obtain ⟨ev, query⟩ := r
  cases query with
  | error e => exact .inl ⟨rfl, fun _ => rfl⟩
  | ok cap =>
    cases hc : cap.hasCapabilities [v4l2CapVideoCapture] with
    | false => exact .inl ⟨by simp [Received.accepted, hc], fun _ => by simp [onEvent, hc]⟩
    | true =>
      by_cases hon : ev.type = cameraEventRecordingOn
      · exact .inr ⟨cap, by simp [Received.accepted, hc, hon], rfl,
          .inl ⟨hon, fun _ => by simp [onEvent, hc, hon]⟩⟩
      · by_cases hoff : ev.type = cameraEventRecordingOff
        · have hne : cameraEventRecordingOff ≠ cameraEventRecordingOn := by decide
          exact .inr ⟨cap, by simp [Received.accepted, hc, hoff], rfl,
            .inr ⟨hoff, fun _ => by simp [onEvent, hc, hoff, hne]⟩⟩
        · exact .inl ⟨by simp [Received.accepted, hc, hon, hoff],
            fun _ => by simp [onEvent, hc, hon, hoff]⟩

/-- An accepted event sets its own detector on or off, and no event does anything else. -/
theorem tracks_onEvent {active : Active} {r : Received} {v d : GoString} :
    Tracks (onEvent active r).1 v d ↔
      if r.accepted ∧ v = r.ev.videoDevice ∧ d = r.ev.detector then
        r.ev.type = cameraEventRecordingOn else Tracks active v d := by
  have hne : cameraEventRecordingOff ≠ cameraEventRecordingOn := by decide
  rcases onEvent_cases r with ⟨hna, heq⟩ | ⟨cap, hacc, -, ⟨hon, heq⟩ | ⟨hoff, heq⟩⟩
  · simp [heq, hna]
  · rw [heq, tracks_onRecordingOn]
    simp only [hacc, hon, true_and]
    split <;> simp_all
  · rw [heq, tracks_onRecordingOff]
    simp only [hacc, hoff, true_and, hne, if_false_left]
    tauto

/-- `onEvent` keeps the entries of the other devices. -/
theorem lookup_onEvent_ne {active : Active} {r : Received} {v : GoString}
    (hv : v ≠ r.ev.videoDevice) : (onEvent active r).1.lookup v = active.lookup v := by
  rcases onEvent_cases r with ⟨-, heq⟩ | ⟨cap, -, -, ⟨-, heq⟩ | ⟨-, heq⟩⟩
  · rw [heq]
  · rw [heq, onRecordingOn_eq]
    split
    · rfl
    · exact Finmap.lookup_insert_of_ne _ hv
  · rw [heq, onRecordingOff_eq]
    split
    · dsimp only
      split
      · exact Finmap.lookup_erase_ne hv
      · exact Finmap.lookup_insert_of_ne _ hv
    · rfl

/-- `onEvent` keeps `active` well formed. -/
theorem onEvent_wf {active : Active} (hwf : active.Wf) (r : Received) :
    Active.Wf (onEvent active r).1 := by
  -- the values of the device's inner map, also when there is none
  have hon : ∀ v d b, (GoMap.get active v).lookup d = some b → b = true := by
    intro v d b hd
    cases hs : active.lookup v with
    | none => simp [GoMap.get_of_lookup_none hs] at hd
    | some s => exact (hwf v s hs).on d b (by rwa [GoMap.get_of_lookup hs] at hd)
  rcases onEvent_cases r with ⟨-, heq⟩ | ⟨cap, -, -, ⟨-, heq⟩ | ⟨-, heq⟩⟩
  · rw [heq]; exact hwf
  · rw [heq, onRecordingOn_eq]
    split
    · exact hwf
    · refine hwf.insert ⟨⟨_, Finmap.mem_insert.2 (.inl rfl)⟩, fun d b hd => ?_⟩
      rw [GoMap.lookup_insert_eq] at hd
      split at hd
      · cases hd; rfl
      · exact hon _ d b hd
  · rw [heq, onRecordingOff_eq]
    split
    · dsimp only
      split
      · exact hwf.erase _
      · rename_i hlen
        rw [GoMap.len_eq_zero, not_forall] at hlen
        obtain ⟨d, hd⟩ := hlen
        refine hwf.insert ⟨⟨d, Finmap.lookup_isSome.1 (Option.isSome_iff_ne_none.2 hd)⟩, ?_⟩
        intro d b hb
        rw [GoMap.lookup_erase_eq] at hb
        split at hb
        · cases hb
        · exact hon _ d b hb
    · exact hwf

/-- `Run` keeps `active` well formed. -/
theorem active_wf (h : List Received) : (active h).Wf :=
  run.inv_run Active.Wf.empty (fun _ r hwf => onEvent_wf hwf r) h

/-- **What an event broadcasts**: an On if its device gets its first entry, an Off if it loses its
last one, and nothing otherwise. -/
theorem onEvent_emits {active : Active} (hwf : active.Wf) (r : Received) :
    (onEvent active r).2 =
      match r.query with
      | .error _ => none
      | .ok cap =>
        if r.ev.videoDevice ∈ active then
          if r.ev.videoDevice ∈ (onEvent active r).1 then none
          else some (emission cameraEventRecordingOff r.ev cap)
        else
          if r.ev.videoDevice ∈ (onEvent active r).1 then
            some (emission cameraEventRecordingOn r.ev cap)
          else none := by
  rcases onEvent_cases r with ⟨-, heq⟩ | ⟨cap, -, hq, ⟨-, heq⟩ | ⟨-, heq⟩⟩
  · rw [heq]
    cases r.query with
    | error _ => rfl
    | ok _ => dsimp only; split <;> rfl
  · rw [heq, onRecordingOn_eq, hq]
    split
    · rename_i ht
      simp [hwf.mem_keys.2 ⟨_, ht⟩]
    · have hlen : GoMap.len (GoMap.get active r.ev.videoDevice) = 0 ↔
          r.ev.videoDevice ∉ active := by
        rw [GoMap.len_eq_zero, ← Finmap.lookup_eq_none]
        cases hs : active.lookup r.ev.videoDevice with
        | none => simp [GoMap.get_of_lookup_none hs]
        | some s =>
          obtain ⟨d, hd⟩ := (hwf _ s hs).nonempty
          rw [GoMap.get_of_lookup hs]
          exact iff_of_false (fun h => Finmap.lookup_eq_none.1 (h d) hd) (by simp)
      simp only [hlen, Finmap.mem_insert, true_or, if_true]
      split <;> simp_all
  · rw [heq, onRecordingOff_eq, hq]
    split
    · rename_i ht
      have hin : r.ev.videoDevice ∈ active := hwf.mem_keys.2 ⟨_, ht⟩
      dsimp only
      split <;> simp [hin, Finmap.mem_erase, Finmap.mem_insert]
    · dsimp only
      split <;> rfl

end Coord
