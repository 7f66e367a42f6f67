import CameraCoordinator.Coordinator.Run
import CameraCoordinator.Lib.Edge

/-!
# The coordinator broadcasts the edges of the devices' levels

What the coordinator is for: a device is on while some detector's last accepted event for it is an
On (`Level`), and the outputs are told each time that changes (`edgeEvents`). This is a function of
the history alone, with no map and no counting.

`tracks_active_iff`: `active` holds exactly the detectors whose last accepted event is an On.
`run_refines_level`: the loop broadcasts the edges of the levels.
-/

set_option autoImplicit false

namespace Coord

/-! ## The specification -/

/-- The accepted events of detector `d` for device `v`. -/
def acceptedOf (h : List Received) (v d : GoString) : List Received :=
  h.filter fun r => r.accepted && (r.ev.videoDevice == v && r.ev.detector == d)

/-- The last accepted event of detector `d` for device `v` is an On. -/
def LastOn (h : List Received) (v d : GoString) : Prop :=
  ∃ r, (acceptedOf h v d).getLast? = some r ∧ r.ev.type = cameraEventRecordingOn

/-- Device `v` is on after the history `h`. -/
def Level (v : GoString) (h : List Received) : Prop := ∃ d, LastOn h v d

/-- The event type that reports an edge: On for a rise. -/
def edgeType (rise : Bool) : CameraEventType :=
  if rise then cameraEventRecordingOn else cameraEventRecordingOff

/-- The report of the edge of the event's device at `r` after `h`, if there is one: in the name of
the coordinator, with the card and bus info of that very event's query, cut at their first NUL. -/
noncomputable def edgeEvent (h : List Received) (r : Received) : Option CameraEvent :=
  match r.query with
  | .error _ => none
  | .ok cap => (edgeAt (Level r.ev.videoDevice) h r).map fun rise => {
      detector := goString "coordinator"
      type := edgeType rise
      videoDevice := r.ev.videoDevice
      card := cut cap.card.toList
      busInfo := cut cap.busInfo.toList }

/-- The reports of all edges of a history, in order. -/
noncomputable def edgeEvents : List Received → List CameraEvent :=
  (Mealy.ofHist fun h r => (edgeEvent h r).toList).out []

/-- The types of the events about device `v`, in order. -/
def typesOf (v : GoString) (es : List CameraEvent) : List CameraEventType :=
  (es.filter fun e => e.videoDevice == v).map (·.type)

theorem typesOf_append (v : GoString) (es es' : List CameraEvent) :
    typesOf v (es ++ es') = typesOf v es ++ typesOf v es' := by simp [typesOf]

/-! ## One more event -/

theorem lastOn_snoc (h : List Received) (r : Received) (v d : GoString) :
    LastOn (h ++ [r]) v d ↔
      if r.accepted ∧ v = r.ev.videoDevice ∧ d = r.ev.detector then
        r.ev.type = cameraEventRecordingOn else LastOn h v d := by
  unfold LastOn acceptedOf
  rw [List.filter_append]
  split
  · rename_i hr
    obtain ⟨hacc, rfl, rfl⟩ := hr
    simp [hacc]
  · rename_i hr
    have hfalse : (r.accepted && (r.ev.videoDevice == v && r.ev.detector == d)) = false := by
      simp only [Bool.and_eq_false_iff, beq_eq_false_iff_ne]
      by_cases hacc : r.accepted
      · by_cases hv : r.ev.videoDevice = v
        · exact .inr (.inr fun hd => hr ⟨hacc, hv.symm, hd.symm⟩)
        · exact .inr (.inl hv)
      · exact .inl (by simpa using hacc)
    simp [hfalse]

/-- `active` holds exactly the detectors whose last accepted event is an On. -/
theorem tracks_active_iff (h : List Received) (v d : GoString) :
    Tracks (active h) v d ↔ LastOn h v d := by
  induction h using List.reverseRecOn with
  | nil => simp [LastOn, acceptedOf]
  | append_singleton h r ih => rw [active_snoc, tracks_onEvent, lastOn_snoc, ih]

theorem level_iff (h : List Received) (v : GoString) : Level v h ↔ v ∈ active h := by
  simp only [Level, ← tracks_active_iff, (active_wf h).mem_keys]

theorem not_level_nil (v : GoString) : ¬ Level v [] := by
  rw [level_iff]; exact Finmap.notMem_empty

/-- An event leaves the levels of the other devices alone. -/
theorem level_snoc_ne {h : List Received} {r : Received} {v : GoString}
    (hv : v ≠ r.ev.videoDevice) : Level v (h ++ [r]) ↔ Level v h := by
  rw [level_iff, level_iff, active_snoc, Finmap.mem_iff, Finmap.mem_iff, lookup_onEvent_ne hv]

/-- An event that is not accepted leaves all levels alone. -/
theorem level_snoc_of_not_accepted {h : List Received} {r : Received} {v : GoString}
    (hna : r.accepted = false) : Level v (h ++ [r]) ↔ Level v h := by
  simp only [Level, lastOn_snoc, hna]
  simp

/-- The loop broadcasts for an event what the specification reports for it. -/
theorem onEvent_eq_edgeEvent (h : List Received) (r : Received) :
    (onEvent (active h) r).2 = edgeEvent h r := by
  rw [onEvent_emits (active_wf h), edgeEvent]
  cases r.query with
  | error _ => rfl
  | ok cap =>
    dsimp only
    rw [← active_snoc]
    have hl := level_iff h r.ev.videoDevice
    have hl' := level_iff (h ++ [r]) r.ev.videoDevice
    split <;> rename_i h0 <;> split <;> rename_i h1
    · rw [edgeAt_none (iff_of_true (hl'.2 h1) (hl.2 h0))]; rfl
    · rw [edgeAt_fall (hl.2 h0) (mt hl'.1 h1)]; rfl
    · rw [edgeAt_rise (mt hl.1 h0) (hl'.2 h1)]; rfl
    · rw [edgeAt_none (iff_of_false (mt hl'.1 h1) (mt hl.1 h0))]; rfl

theorem broadcasts_eq_edgeEvents (h : List Received) : broadcasts h = edgeEvents h := by
  induction h using List.reverseRecOn with
  | nil => rfl
  | append_singleton h r ih =>
    rw [broadcasts_snoc, ih, onEvent_eq_edgeEvent, edgeEvents, Mealy.ofHist_out_snoc]

/-! ## The edges of one device -/

/-- The edge of device `v` at an event is reported if it is the event's device. -/
theorem typesOf_edgeEvent (h : List Received) (r : Received) (v : GoString) :
    typesOf v (edgeEvent h r).toList = (edgeAt (Level v) h r).toList.map edgeType := by
  by_cases hv : v = r.ev.videoDevice
  · subst hv
    unfold edgeEvent
    cases hq : r.query with
    | error e =>
      have hna : r.accepted = false := by simp [Received.accepted, hq]
      rw [edgeAt_none (level_snoc_of_not_accepted hna)]
      rfl
    | ok cap =>
      dsimp only
      cases edgeAt (Level r.ev.videoDevice) h r with
      | none => rfl
      | some rise => simp [typesOf]
  · rw [edgeAt_none (level_snoc_ne hv)]
    unfold edgeEvent
    cases r.query with
    | error e => rfl
    | ok cap =>
      dsimp only
      cases edgeAt (Level r.ev.videoDevice) h r with
      | none => rfl
      | some rise => simp [typesOf, Ne.symm hv]

/-- The broadcasts about a device report the edges of its level. -/
theorem typesOf_broadcasts (h : List Received) (v : GoString) :
    typesOf v (broadcasts h) = (edges (Level v) h).map edgeType := by
  induction h using List.reverseRecOn with
  | nil => rfl
  | append_singleton h r ih =>
    rw [broadcasts_snoc, typesOf_append, ih, onEvent_eq_edgeEvent, typesOf_edgeEvent, edges_snoc,
      List.map_append]

/-- The broadcasts about a device are On, Off, On, … -/
theorem alternates_broadcasts (h : List Received) (v : GoString) :
    Alternates cameraEventRecordingOn cameraEventRecordingOff (typesOf v (broadcasts h)) := by
  rw [typesOf_broadcasts]
  exact (alternates_edges (not_level_nil v) h).1.map edgeType

/-- The last broadcast about a device is an On exactly while the device is on. -/
theorem getLast_broadcasts_iff (h : List Received) (v : GoString) :
    (typesOf v (broadcasts h)).getLast? = some cameraEventRecordingOn ↔ Level v h := by
  have hinj : ∀ b, edgeType b = cameraEventRecordingOn ↔ b = true := by decide
  rw [typesOf_broadcasts, (alternates_edges (not_level_nil v) h).2, List.getLast?_map]
  cases (edges (Level v) h).getLast? <;> simp [hinj]

/-- There are as many Ons about a device as Offs, and one more while the device is on. -/
theorem count_broadcasts (h : List Received) (v : GoString) :
    (Level v h → (typesOf v (broadcasts h)).count cameraEventRecordingOn =
      (typesOf v (broadcasts h)).count cameraEventRecordingOff + 1) ∧
    (¬ Level v h → (typesOf v (broadcasts h)).count cameraEventRecordingOn =
      (typesOf v (broadcasts h)).count cameraEventRecordingOff) := by
  have hcount := (alternates_broadcasts h v).count_eq (by decide)
  have hlast := getLast_broadcasts_iff h v
  exact ⟨fun hl => by rw [hcount, if_pos (hlast.2 hl)],
    fun hl => by rw [hcount, if_neg (mt hlast.1 hl), Nat.add_zero]⟩

/-- **The coordinator reports the edges of the devices' levels.** After every prefix of the events,
`active` holds exactly the detectors whose last accepted event is an On, in inner maps that are
never empty; what was broadcast is the sequence of edges, with the card and bus info of the event at
the edge; and the broadcasts about each device alternate, starting with an On. -/
theorem run_refines_level (h : List Received) (n : Nat) :
    (∀ v d, (Tracks (active (h.take n)) v d ↔ LastOn (h.take n) v d) ∧
      ((∃ s, (active (h.take n)).lookup v = some s ∧ d ∈ s) ↔ LastOn (h.take n) v d)) ∧
    (∀ v s, (active (h.take n)).lookup v = some s → s ≠ ∅) ∧
    broadcasts (h.take n) = edgeEvents (h.take n) ∧
    (∀ v, typesOf v (broadcasts (h.take n)) = (edges (Level v) (h.take n)).map edgeType) ∧
    ∀ v, Alternates cameraEventRecordingOn cameraEventRecordingOff
      (typesOf v (broadcasts (h.take n))) := by
  generalize h.take n = p
  have hwf := active_wf p
  refine ⟨fun v d => ⟨tracks_active_iff p v d, ?_⟩, fun v s hs hemp => ?_,
    broadcasts_eq_edgeEvents p, typesOf_broadcasts p, alternates_broadcasts p⟩
  · rw [← hwf.mem_iff, tracks_active_iff]
  · obtain ⟨d, hd⟩ := (hwf v s hs).nonempty
    rw [hemp] at hd
    exact Finmap.notMem_empty hd

end Coord
