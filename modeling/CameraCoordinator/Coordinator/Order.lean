import CameraCoordinator.Coordinator.Cancel
import CameraCoordinator.Lib.Interleave

/-!
# The order of the detectors does not matter

Detectors run concurrently, and it is up to the scheduler in which order the coordinator receives
what they send. `active` holds for each device what the last accepted event of each detector says,
so two histories in which every detector has the same events lead to the same `active`
(`active_eq_of_interleaves`), although they may be broadcast differently. `order_independent` says
what this means for the outputs of two concurrent runs.
-/

set_option autoImplicit false

namespace Coord

/-! ## What `active` is determined by -/

/-- A well-formed `active` is determined by what it tracks. -/
theorem Active.Wf.ext {a b : Active} (ha : a.Wf) (hb : b.Wf)
    (h : ∀ v d, Tracks a v d ↔ Tracks b v d) : a = b := by
  have hkeys : ∀ v, v ∈ a ↔ v ∈ b := fun v => by
    rw [ha.mem_keys, hb.mem_keys]
    exact exists_congr (h v)
  refine Finmap.ext_lookup fun v => ?_
  cases hva : a.lookup v with
  | none =>
    have hnot : v ∉ b := mt (hkeys v).2 (Finmap.lookup_eq_none.1 hva)
    rw [Finmap.lookup_eq_none.2 hnot]
  | some s =>
    obtain ⟨s', hvb⟩ := Finmap.mem_iff.1 ((hkeys v).1 (Finmap.mem_of_lookup_eq_some hva))
    have hmem : ∀ d, s.lookup d = some true ↔ s'.lookup d = some true := by
      intro d
      have hd := h v d
      rw [tracks_iff, tracks_iff, hva, hvb] at hd
      simpa using hd
    rw [hvb, Option.some_inj]
    refine Finmap.ext_lookup fun d => Option.ext fun b => ?_
    constructor
    · intro hb'
      obtain rfl := (ha v s hva).on d b hb'
      exact (hmem d).1 hb'
    · intro hb'
      obtain rfl := (hb v s' hvb).on d b hb'
      exact (hmem d).2 hb'

/-- The events of a detector. -/
def ofDetector (d : GoString) (h : List Received) : List Received :=
  h.filter fun r => r.ev.detector == d

theorem acceptedOf_eq (h : List Received) (v d : GoString) :
    acceptedOf h v d = (ofDetector d h).filter fun r => r.accepted && r.ev.videoDevice == v := by
  rw [acceptedOf, ofDetector, List.filter_filter]
  refine List.filter_congr fun r _ => ?_
  cases r.accepted <;> simp

/-- Histories with the same events of each detector lead to the same `active`. -/
theorem active_eq_of_ofDetector {h h' : List Received}
    (heq : ∀ d, ofDetector d h = ofDetector d h') : active h = active h' := by
  refine (active_wf h).ext (active_wf h') fun v d => ?_
  rw [tracks_active_iff, tracks_active_iff, LastOn, LastOn, acceptedOf_eq, acceptedOf_eq, heq d]

/-! ## Interleavings -/

section
variable {ι : Type*} [DecidableEq ι] {name : ι → GoString} {hs : ι → List Received}

/-- What a detector has sent can be read off the history. -/
theorem ofDetector_of_interleaves (hname : Function.Injective name)
    (hsent : ∀ i, ∀ r ∈ hs i, r.ev.detector = name i) {h : List Received} (hi : Interleaves hs h)
    (i : ι) : ofDetector (name i) h = hs i := by
  refine hi.filter_eq (fun r hr => ?_) fun j hj r hr => ?_
  · rw [hsent i r hr]
    exact beq_self_eq_true _
  · rw [hsent j r hr, beq_eq_false_iff_ne]
    exact fun heq => hj (hname heq)

/-- Nothing was sent by any other. -/
theorem ofDetector_eq_nil (hsent : ∀ i, ∀ r ∈ hs i, r.ev.detector = name i) {h : List Received}
    (hi : Interleaves hs h) {d : GoString} (hd : ∀ i, name i ≠ d) : ofDetector d h = [] := by
  refine List.filter_eq_nil_iff.2 fun r hr => ?_
  obtain ⟨i, hri⟩ := hi.exists_mem hr
  rw [hsent i r hri, beq_iff_eq]
  exact hd i

/-- **The order of the detectors does not matter for `active`.** -/
theorem active_eq_of_interleaves (hname : Function.Injective name)
    (hsent : ∀ i, ∀ r ∈ hs i, r.ev.detector = name i) {h h' : List Received}
    (hi : Interleaves hs h) (hi' : Interleaves hs h') : active h = active h' := by
  refine active_eq_of_ofDetector fun d => ?_
  by_cases hd : ∃ i, name i = d
  · obtain ⟨i, rfl⟩ := hd
    rw [ofDetector_of_interleaves hname hsent hi, ofDetector_of_interleaves hname hsent hi']
  · have hne : ∀ i, name i ≠ d := fun i hn => hd ⟨i, hn⟩
    rw [ofDetector_eq_nil hsent hi hne, ofDetector_eq_nil hsent hi' hne]

end

end Coord

namespace FanOut

open Coord (Received typesOf broadcasts)

/-- Where no broadcast is in progress, the last event that an output was sent about a device is an
On exactly if the device has an entry in `active`. -/
theorem Inv.last_iff {n : Nat} {s : State n} (hs : Inv s) (hctx : s.ctxDone = false)
    (hidle : ∀ ev i, s.pc ≠ .broadcast ev i) (j : Fin n) (v : GoString) :
    (typesOf v (s.outputs j).events).getLast? = some cameraEventRecordingOn ↔ v ∈ s.active := by
  have hevents : (s.outputs j).events = broadcasts s.received := by
    rw [Output.events, hs.sent_of_idle hctx hidle j, List.zipIdx_map_fst, hs.emitted]
  rw [hevents, Coord.getLast_broadcasts_iff, Coord.level_iff, hs.active]

/-- **The order of the detectors does not matter.** Take any two runs of the coordinator, on any
channels, with any numbers of outputs, consumers and schedules, that are uncancelled and not in a
broadcast. If what was received is in both an interleaving of the same events of detectors with
different names, and the queries for these were answered alike, then `active` is the same, and so is
what the last event says that any of the outputs was sent about a device. -/
theorem order_independent {ι : Type*} [DecidableEq ι] (name : ι → GoString)
    (hname : Function.Injective name) (hs : ι → List Received)
    (hsent : ∀ i, ∀ r ∈ hs i, r.ev.detector = name i) {n n' : Nat} (cap cap' : Nat)
    (caps : Fin n → Nat) (caps' : Fin n' → Nat) (s : State n) (s' : State n')
    (hr : Reachable cap caps s) (hr' : Reachable cap' caps' s') (hctx : s.ctxDone = false)
    (hctx' : s'.ctxDone = false) (hidle : ∀ ev i, s.pc ≠ .broadcast ev i)
    (hidle' : ∀ ev i, s'.pc ≠ .broadcast ev i) (hi : Interleaves hs s.received)
    (hi' : Interleaves hs s'.received) :
    s.active = s'.active ∧ ∀ j j' v,
      ((typesOf v (s.outputs j).events).getLast? = some cameraEventRecordingOn ↔
        (typesOf v (s'.outputs j').events).getLast? = some cameraEventRecordingOn) := by
  have hinv := reachable_inv hr
  have hinv' := reachable_inv hr'
  have hactive : s.active = s'.active := by
    rw [hinv.active, hinv'.active]
    exact Coord.active_eq_of_interleaves hname hsent hi hi'
  refine ⟨hactive, fun j j' v => ?_⟩
  rw [hinv.last_iff hctx hidle, hinv'.last_iff hctx' hidle', hactive]

/-- An event of one of two detectors. -/
def fromDetector (first : Bool) (type : CameraEventType) : Received :=
  ⟨{ CameraEvent.test type with detector := if first then goString "a" else goString "b" },
    .ok .capture⟩

/-- The second detector turns on and off while the first is on, or before it. -/
theorem same_after_orders : ∃ s s' : State 1, Reachable 0 (fun _ => 3) s ∧
    Reachable 0 (fun _ => 3) s' ∧ (s.outputs 0).sent.length = 1 ∧ (s'.outputs 0).sent.length = 3 ∧
    s.active = s'.active := by
  have h0 : Reachable 0 (fun _ => 3) (init 0 fun _ : Fin 1 => 3) := .refl
  -- the second is on while the first is
  have h1 := h0.tail (.recvHandoff (fromDetector true cameraEventRecordingOn).ev (.ok .capture)
    rfl ⟨rfl, rfl⟩)
  have h2 := h1.tail (.send (i := 0) rfl (.buffer rfl))
  have h3 := h2.tail (.finish rfl)
  have h4 := h3.tail (.recvHandoff (fromDetector false cameraEventRecordingOn).ev (.ok .capture)
    rfl ⟨rfl, rfl⟩)
  have h5 := h4.tail (.recvHandoff (fromDetector false cameraEventRecordingOff).ev (.ok .capture)
    rfl ⟨rfl, rfl⟩)
  -- the second is on before the first
  have k1 := h0.tail (.recvHandoff (fromDetector false cameraEventRecordingOn).ev (.ok .capture)
    rfl ⟨rfl, rfl⟩)
  have k2 := k1.tail (.send (i := 0) rfl (.buffer rfl))
  have k3 := k2.tail (.finish rfl)
  have k4 := k3.tail (.recvHandoff (fromDetector false cameraEventRecordingOff).ev (.ok .capture)
    rfl ⟨rfl, rfl⟩)
  have k5 := k4.tail (.send (i := 0) rfl (.buffer rfl))
  have k6 := k5.tail (.finish rfl)
  have k7 := k6.tail (.recvHandoff (fromDetector true cameraEventRecordingOn).ev (.ok .capture)
    rfl ⟨rfl, rfl⟩)
  have k8 := k7.tail (.send (i := 0) rfl (.buffer rfl))
  have k9 := k8.tail (.finish rfl)
  refine ⟨_, _, h5, k9, rfl, rfl, ?_⟩
  refine (order_independent (fun first => if first then goString "a" else goString "b") (by decide)
    (fun first => if first then [fromDetector true cameraEventRecordingOn] else
      [fromDetector false cameraEventRecordingOn, fromDetector false cameraEventRecordingOff])
    ?_ 0 0 _ _ _ _ h5 k9 rfl rfl (fun ev i h => by cases h) (fun ev i h => by cases h)
    ⟨[(true, _), (false, _), (false, _)], rfl, ?_⟩
    ⟨[(false, _), (false, _), (true, _)], rfl, ?_⟩).1
  · intro first r hr
    cases first
    · rcases List.mem_pair.1 hr with rfl | rfl <;> rfl
    · rw [List.mem_singleton.1 hr]
      rfl
  · intro first
    cases first <;> rfl
  · intro first
    cases first <;> rfl

end FanOut
