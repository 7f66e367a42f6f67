import CameraCoordinator.Main.Shutdown

/-!
# A notifier that cannot connect

`main` runs the D-Bus notifier on the first notifier channel. If `ConnectSystemBus` fails its `Run`
returns and nobody reads from that channel again: the first emission stays in its buffer, and the
second one blocks `broadcastEvent` until the context is cancelled.

`dead_notifier_iff`: before cancellation the coordinator serves the other notifiers exactly if the
connection has not failed or there was at most one emission.
-/

set_option autoImplicit false

namespace Main

variable {d n : Nat}

/-- The notifiers of `main`: `NewDBusNotifier` first. -/
def mainKinds (j : Fin n) : Kind := if j.val = 0 then .dbus else .script

/-- `coord.Run` is in `broadcastEvent` at an output that is full and whose notifier has
returned. -/
def DeadBlocked (s : State d n) : Prop :=
  ∃ ev, ∃ j : Fin n, s.fan.pc = .broadcast ev j ∧ (s.fan.outputs j).chan.send ev = none ∧
    ∃ err, s.notifiers j = .returned err

/-- The `ConnectSystemBus` of a notifier has failed. -/
def ConnectFailed (s : State d n) : Prop := ∃ j err, s.notifiers j = .returned (some err)

/-- Runs in which the environment takes no step. -/
def OwnRuns (kinds : Fin n → Kind) : State d n → State d n → Prop :=
  Relation.ReflTransGen fun s s' => ∃ a, a ≠ .environment ∧ Step kinds a s s'

/-- No dead notifier blocks the others: the coordinator is not blocked on one, it can send all its
emissions to all outputs, and it can return once `allEvents` is closed. -/
structure Serves (kinds : Fin n → Kind) (s : State d n) : Prop where
  unblocked : ¬ DeadBlocked s
  delivers : ∃ s', OwnRuns kinds s s' ∧ s'.fan.received = s.fan.received ∧
    ∀ j, (s'.fan.outputs j).sent = (Coord.broadcasts s.fan.received).zipIdx
  returns : s.fan.events.closed = true → ∃ s', OwnRuns kinds s s' ∧ s'.fan.pc = .returned

/-! ## The channel of a failed notifier -/

section
variable {kinds : Fin n → Kind} {s : State d n} (hs : Inv kinds s)
include hs

/-- What a notifier that failed was sent is still in its channel. -/
theorem Inv.buf_of_failed {j : Fin n} {err : GoString} (hj : s.notifiers j = .returned (some err)) :
    kinds j = .dbus ∧ (s.fan.outputs j).chan.buf = (s.fan.outputs j).sent.map Prod.fst := by
  have hcons := hs.notifiers j
  unfold Consumes at hcons
  rw [hj] at hcons
  refine ⟨hcons.1, ?_⟩
  have hstream := (FanOut.reachable_inv hs.fan).stream j
  rwa [hcons.2, List.nil_append] at hstream

theorem Inv.chan_open (j : Fin n) : (s.fan.outputs j).chan.cap = 1 ∧
    (s.fan.outputs j).chan.closed = false := (FanOut.reachable_caps hs.fan).2 j

/-- In a broadcast the outputs before the current one were sent the emission. -/
theorem Inv.sent_of_broadcast {ev : CameraEvent} {k : Nat} (hctx : s.fan.ctxDone = false)
    (hpc : s.fan.pc = .broadcast ev k) : ∃ es, Coord.broadcasts s.fan.received = es ++ [ev] ∧
      ∀ j, (s.fan.outputs j).sent = inRound es ev k (fun _ => es.zipIdx) j := by
  have hfan := FanOut.reachable_inv hs.fan
  rw [← hfan.emitted]
  exact hfan.sent_of_broadcast hctx hpc

/-- Between broadcasts all outputs were sent everything. -/
theorem Inv.sent_of_idle (hctx : s.fan.ctxDone = false) (hpc : ∀ ev i, s.fan.pc ≠ .broadcast ev i)
    (j : Fin n) : (s.fan.outputs j).sent = (Coord.broadcasts s.fan.received).zipIdx := by
  have hfan := FanOut.reachable_inv hs.fan
  rw [← hfan.emitted]
  exact hfan.sent_of_idle hctx hpc j

/-- Before cancellation a notifier returns only because it failed to connect. -/
theorem Inv.failed_of_returned {ev : CameraEvent} {k : Nat} {j : Fin n} {err : Option GoString}
    (hctx : s.fan.ctxDone = false) (hpc : s.fan.pc = .broadcast ev k)
    (hj : s.notifiers j = .returned err) : ∃ e, err = some e := by
  cases err with
  | some e => exact ⟨e, rfl⟩
  | none =>
    have hcons := hs.notifiers j
    unfold Consumes at hcons
    rw [hj] at hcons
    rcases hcons with h | h
    · rw [hctx] at h
      cases h
    · have hret := hs.fan_returned h
      rw [hpc] at hret
      cases hret

end

/-- A failed notifier blocks the coordinator from the second emission on. -/
theorem deadBlocked_of_failed {s : State d n} (hs : Inv mainKinds s) (hctx : s.fan.ctxDone = false)
    (hfail : ConnectFailed s) (hmany : 1 < (Coord.broadcasts s.fan.received).length) :
    DeadBlocked s := by
  obtain ⟨j, err, hj⟩ := hfail
  obtain ⟨hkind, hbuf⟩ := hs.buf_of_failed hj
  obtain ⟨hcap, hopen⟩ := hs.chan_open j
  have hj0 : j.val = 0 := by
    by_contra h
    simp [mainKinds, h] at hkind
  have hlen : (s.fan.outputs j).sent.length ≤ 1 := by
    have hle := (s.fan.outputs j).chan.le_cap
    rwa [hcap, hbuf, List.length_map] at hle
  cases hpc : s.fan.pc with
  | broadcast ev k =>
    obtain ⟨es, hem, hsent⟩ := hs.sent_of_broadcast hctx hpc
    rw [hem, List.length_append, List.length_singleton] at hmany
    have hk : k = j.val := by
      by_contra hne
      rw [hsent j, inRound, if_pos (by omega), List.length_append, List.length_zipIdx,
        List.length_singleton] at hlen
      omega
    subst hk
    refine ⟨ev, j, hpc, (Chan.send_eq_none hopen).2 ?_, _, hj⟩
    rw [hcap, hbuf, List.length_map, hsent j, inRound_self, List.length_zipIdx]
    omega
  | _ =>
    rw [hs.sent_of_idle hctx (by simp [hpc]) j, List.length_zipIdx] at hlen
    omega

/-- With at most one emission, or no failure, no output is both full and dead. -/
theorem not_deadBlocked {kinds : Fin n → Kind} {s : State d n} (hs : Inv kinds s)
    (hctx : s.fan.ctxDone = false)
    (hcond : ConnectFailed s → (Coord.broadcasts s.fan.received).length ≤ 1) : ¬ DeadBlocked s := by
  rintro ⟨ev, j, hpc, hfull, err, hj⟩
  obtain ⟨e, rfl⟩ := hs.failed_of_returned hctx hpc hj
  obtain ⟨es, hem, hsent⟩ := hs.sent_of_broadcast hctx hpc
  have hone := hcond ⟨j, e, hj⟩
  obtain ⟨-, hbuf⟩ := hs.buf_of_failed hj
  obtain ⟨hcap, hopen⟩ := hs.chan_open j
  rw [hem, List.length_append, List.length_singleton] at hone
  rw [Chan.send_eq_none hopen, hcap, hbuf, List.length_map, hsent j, inRound_self,
    List.length_zipIdx] at hfull
  omega

/-! ## A broadcast gets through -/

/-- From the one state to the other nothing happens to the context or `allEvents`, and no notifier
fails. -/
structure Quiet (s s' : State d n) : Prop where
  ctxDone : s'.fan.ctxDone = s.fan.ctxDone
  received : s'.fan.received = s.fan.received
  events : s'.fan.events = s.fan.events
  failed : ConnectFailed s' → ConnectFailed s

theorem Quiet.trans {s s' s'' : State d n} (h : Quiet s s') (h' : Quiet s' s'') : Quiet s s'' :=
  ⟨h'.ctxDone.trans h.ctxDone, h'.received.trans h.received, h'.events.trans h.events,
    h.failed ∘ h'.failed⟩

theorem quiet_setNotifier (s : State d n) (j : Fin n) {p : Notifier}
    (hp : ∀ err, p ≠ .returned (some err)) : Quiet s (s.setNotifier j p) := by
  refine ⟨rfl, rfl, rfl, ?_⟩
  rintro ⟨i, err, hi⟩
  by_cases hij : i = j
  · subst hij
    exact absurd (by simpa [State.setNotifier] using hi) (hp err)
  · exact ⟨i, err, by simpa [State.setNotifier, hij] using hi⟩

section
variable {kinds : Fin n → Kind} {s : State d n}

/-- A quiet run of the goroutines to a state with a property. -/
def Gets (kinds : Fin n → Kind) (s : State d n) (P : State d n → Prop) : Prop :=
  ∃ s', OwnRuns kinds s s' ∧ Quiet s s' ∧ P s'

theorem Gets.of_step {P : State d n → Prop} {a : Actor d n} {s' : State d n}
    (ha : a ≠ .environment) (h : Step kinds a s s') (hq : Quiet s s') (hrest : Gets kinds s' P) :
    Gets kinds s P := by
  obtain ⟨t, hrun, hq', ht⟩ := hrest
  exact ⟨t, .head ⟨a, ha, h⟩ hrun, hq.trans hq', ht⟩

theorem Gets.refl {P : State d n → Prop} (h : P s) : Gets kinds s P :=
  ⟨s, .refl, ⟨rfl, rfl, rfl, id⟩, h⟩

theorem Gets.bind {P Q : State d n → Prop} (h : Gets kinds s P)
    (hrest : ∀ s', OwnRuns kinds s s' → Quiet s s' → P s' → Gets kinds s' Q) : Gets kinds s Q := by
  obtain ⟨s', hrun, hq, hP⟩ := h
  obtain ⟨t, hrun', hq', hQ⟩ := hrest s' hrun hq hP
  exact ⟨t, hrun.trans hrun', hq.trans hq', hQ⟩

theorem Reachable.own {s' : State d n} (hs : Reachable kinds s) (h : OwnRuns kinds s s') :
    Reachable kinds s' :=
  hs.runs (Relation.ReflTransGen.mono (fun _ _ ⟨a, _, hstep⟩ => ⟨a, hstep⟩) _ _ h)

/-- The broadcast is at an output that has room. -/
def HasRoom (ev : CameraEvent) (j : Fin n) (s : State d n) : Prop :=
  s.fan.pc = .broadcast ev j ∧ ∃ c, (s.fan.outputs j).chan.send ev = some c

/-- A notifier at its `select` makes room. -/
theorem room_of_receiving {ev : CameraEvent} {j : Fin n} (hs : Inv kinds s)
    (hpc : s.fan.pc = .broadcast ev j) (hp : s.notifiers j = .receiving)
    (hfull : (s.fan.outputs j).chan.send ev = none) : Gets kinds s (HasRoom ev j) := by
  obtain ⟨hcap, hopen⟩ := hs.chan_open j
  have hle := (Chan.send_eq_none hopen).1 hfull
  have hne : (s.fan.outputs j).chan.buf ≠ [] := by
    intro h
    simp [h, hcap] at hle
  obtain ⟨ev', c, hrecv⟩ := Chan.exists_recv hne
  obtain ⟨hbuf, hclosed⟩ := Chan.recv_some hrecv
  have hroom : c.buf.length < c.cap := by
    have hbound := (s.fan.outputs j).chan.le_cap
    rw [hcap, hbuf, List.length_cons] at hbound
    rw [Chan.cap_of_recv hrecv, hcap]
    omega
  have hstart : ∀ err, (kinds j).onEvent ev' ≠ .returned err := by
    cases kinds j <;> simp [Kind.onEvent]
  obtain ⟨c', hsend⟩ := Chan.exists_send (hclosed.trans hopen) hroom ev
  refine .of_step (by simp) (.consume hp hrecv) ?_ (.refl ⟨hpc, c', ?_⟩)
  · exact (quiet_setNotifier s j fun err => hstart _).trans ⟨rfl, rfl, rfl, id⟩
  · simpa [State.setOutput] using hsend

/-- Any notifier that has not returned makes room. -/
theorem exists_room {ev : CameraEvent} {j : Fin n} (hs : Reachable kinds s)
    (hpc : s.fan.pc = .broadcast ev j) (hlive : ∀ err, s.notifiers j ≠ .returned err)
    (hfull : (s.fan.outputs j).chan.send ev = none) : Gets kinds s (HasRoom ev j) := by
  have hreceive : ∀ s' : State d n, s' = s.setNotifier j .receiving →
      Step kinds (.notifier j) s s' → Gets kinds s (HasRoom ev j) := by
    rintro s' rfl hstep
    refine .of_step (by simp) hstep (quiet_setNotifier s j (by simp)) ?_
    exact room_of_receiving (reachable_inv (hs.tail ⟨_, hstep⟩)) hpc
      (Function.update_self j _ _) hfull
  cases hp : s.notifiers j with
  | connecting => exact hreceive _ rfl (.connect hp)
  | receiving => exact room_of_receiving (reachable_inv hs) hpc hp hfull
  | emitting ev' => exact hreceive _ rfl (.emitted hp)
  | returned err => exact absurd hp (hlive err)

/-- The broadcast is at its next output once there is room at this one. -/
theorem gets_next {ev : CameraEvent} {j : Fin n} (hroom : HasRoom ev j s) :
    Gets kinds s fun s' => s'.fan.pc = .broadcast ev (j + 1) := by
  obtain ⟨hpc, c, hsend⟩ := hroom
  exact .of_step (by simp) (.send hpc hsend) ⟨rfl, rfl, rfl, id⟩ (.refl rfl)

/-- The connection has not failed, or there was at most one emission. -/
def AtMostOneIfFailed (s : State d n) : Prop :=
  ConnectFailed s → (Coord.broadcasts s.fan.received).length ≤ 1

theorem AtMostOneIfFailed.quiet {s' : State d n} (h : AtMostOneIfFailed s) (hq : Quiet s s') :
    AtMostOneIfFailed s' := fun hf => by
  rw [hq.received]
  exact h (hq.failed hf)

/-- Output by output, a broadcast gets through. -/
theorem gets_select {ev : CameraEvent} (m : Nat) : ∀ {s : State d n} {i : Nat},
    Reachable kinds s → s.fan.ctxDone = false → AtMostOneIfFailed s →
    s.fan.pc = .broadcast ev i → i + m = n → Gets kinds s fun s' => s'.fan.pc = .select := by
  induction m with
  | zero =>
    intro s i hs hctx hcond hpc hi
    obtain rfl : i = n := by omega
    exact .of_step (by simp) (.finish hpc) ⟨rfl, rfl, rfl, id⟩ (.refl rfl)
  | succ m ih =>
    intro s i hs hctx hcond hpc hi
    have hlt : i < n := by omega
    have hroom : Gets kinds s (HasRoom ev ⟨i, hlt⟩) := by
      cases hsend : (s.fan.outputs ⟨i, hlt⟩).chan.send ev with
      | some c => exact .refl ⟨hpc, c, hsend⟩
      | none =>
        refine exists_room hs hpc (fun err hj => ?_) hsend
        exact not_deadBlocked (reachable_inv hs) hctx hcond ⟨ev, _, hpc, hsend, err, hj⟩
    refine (hroom.bind fun s' _ _ hr => gets_next hr).bind fun s' hrun hq hpc' => ?_
    have hnext : i + 1 + m = n := by omega
    exact ih (hs.own hrun) (hq.ctxDone.trans hctx) (hcond.quiet hq) hpc' hnext

/-- The coordinator gets to its `select` unless it has returned. -/
theorem gets_idle (hs : Reachable kinds s) (hctx : s.fan.ctxDone = false)
    (hcond : AtMostOneIfFailed s) (hpc : s.fan.pc ≠ .returned) :
    Gets kinds s fun s' => s'.fan.pc = .select := by
  cases h : s.fan.pc with
  | select => exact .refl h
  | broadcast ev i =>
    have hle := (reachable_inv hs).broadcast_le h
    exact gets_select (n - i) hs hctx hcond h (by omega)
  | returned => exact absurd h hpc

/-- All emissions can be sent to all outputs. -/
theorem gets_delivered (hs : Reachable kinds s) (hctx : s.fan.ctxDone = false)
    (hcond : AtMostOneIfFailed s) : Gets kinds s fun s' =>
      ∀ j, (s'.fan.outputs j).sent = (Coord.broadcasts s.fan.received).zipIdx := by
  have hidle : Gets kinds s fun s' => ∀ ev i, s'.fan.pc ≠ .broadcast ev i := by
    by_cases hpc : s.fan.pc = .returned
    · exact .refl (by simp [hpc])
    · exact (gets_idle hs hctx hcond hpc).bind fun s' _ _ h => .refl (by simp [h])
  refine hidle.bind fun s' hrun hq hpc => .refl fun j => ?_
  have hinv := reachable_inv (hs.own hrun)
  rw [hinv.sent_of_idle (hq.ctxDone.trans hctx) hpc j, hq.received]

/-- Once `allEvents` is closed `coord.Run` can return. -/
theorem gets_returned (hs : Reachable kinds s) (hctx : s.fan.ctxDone = false)
    (hcond : AtMostOneIfFailed s) (hclosed : s.fan.events.closed = true) :
    Gets kinds s fun s' => s'.fan.pc = .returned := by
  by_cases hpc : s.fan.pc = .returned
  · exact .refl hpc
  · refine (gets_idle hs hctx hcond hpc).bind fun s' hrun hq hselect => ?_
    obtain ⟨hcap, -⟩ := FanOut.reachable_caps (reachable_inv (hs.own hrun)).fan
    have hbuf : s'.fan.events.buf = [] :=
      List.length_eq_zero_iff.1 (Nat.le_zero.1 (hcap ▸ s'.fan.events.le_cap))
    have hrecv := Chan.recv_closed hbuf (hq.events ▸ hclosed)
    exact .of_step (by simp) (.recvClosed hselect hrecv) ⟨rfl, rfl, rfl, id⟩ (.refl rfl)

end

/-- **When a dead notifier blocks the others.** In every state reached before cancellation, the
coordinator serves the notifiers exactly if the connection to the bus has not failed or there was at
most one emission so far. -/
theorem dead_notifier_iff (s : State d n) (hs : Reachable mainKinds s)
    (hctx : s.fan.ctxDone = false) : Serves mainKinds s ↔
      (ConnectFailed s → (Coord.broadcasts s.fan.received).length ≤ 1) := by
  have hinv := reachable_inv hs
  constructor
  · intro hserves hfail
    by_contra hmany
    exact hserves.unblocked (deadBlocked_of_failed hinv hctx hfail (by omega))
  · intro hcond
    refine ⟨not_deadBlocked hinv hctx hcond, ?_, fun hclosed => ?_⟩
    · obtain ⟨s', hrun, hq, hsent⟩ := gets_delivered hs hctx hcond
      exact ⟨s', hrun, hq.received, hsent⟩
    · obtain ⟨s', hrun, -, hpc⟩ := gets_returned hs hctx hcond hclosed
      exact ⟨s', hrun, hpc⟩

/-! ## A second emission -/

/-- The record of an ioctl on `video0`. -/
def video0 (type : UInt32) : Detect.Record where
  rawSample := Detect.Vb2IoctlCameraEvent.encode
    ⟨type, 1, 7, ⟨(goString "video0" ++ List.replicate 26 0).toArray, rfl⟩⟩
  kill := .alive

/-- The program once its one detector has started its read loop. -/
def started : State 1 2 :=
  (init mainKinds).setDetector 0 { Detect.init with outer := .select, reader := .readInto }

theorem reachable_started : Reachable mainKinds started := by
  have h0 : Reachable (d := 1) (mainKinds (n := 2)) (init _) := .refl
  have h1 := h0.tail ⟨_, .detector (i := 0) (.setup rfl rfl)⟩
  have h2 := h1.tail ⟨_, .detector (i := 0) (.setup rfl rfl)⟩
  have h3 := h2.tail ⟨_, .detector (i := 0) (.setup rfl rfl)⟩
  have h4 := h3.tail ⟨_, .detector (i := 0) (.setup rfl rfl)⟩
  have h5 := h4.tail ⟨_, .detector (i := 0) (.start rfl rfl)⟩
  simp only [State.setDetector, Function.update_idem] at h5
  exact h5

/-- Without a bus, turning a camera on and off blocks the coordinator. -/
theorem blocked_by_dead_notifier : ∃ s : State 1 2, Reachable mainKinds s ∧
    s.fan.ctxDone = false ∧ DeadBlocked s ∧ (s.fan.outputs 1).sent.length = 1 := by
  have h0 := reachable_started
  have h1 := h0.tail ⟨_, .connectFails (j := 0) (goString "no bus") rfl⟩
  -- the camera is turned on, and the event gets to both channels
  have h2 := h1.tail ⟨_, .kernel (i := 0) (.readRecord (video0 1) rfl rfl)⟩
  have h3 := h2.tail ⟨_, .pass (i := 0) (.ok .capture) (.send rfl) rfl ⟨rfl, rfl⟩⟩
  have h4 := h3.tail ⟨_, .send (j := 0) rfl rfl⟩
  have h5 := h4.tail ⟨_, .send (j := 1) rfl rfl⟩
  have h6 := h5.tail ⟨_, .finish rfl⟩
  -- the camera is turned off
  have h7 := h6.tail ⟨_, .kernel (i := 0) (.readRecord (video0 2) rfl rfl)⟩
  have h8 := h7.tail ⟨_, .pass (i := 0) (.ok .capture) (.send rfl) rfl ⟨rfl, rfl⟩⟩
  exact ⟨_, h8, rfl, ⟨_, 0, rfl, rfl, _, rfl⟩, rfl⟩

/-- With a bus, an emission is served. -/
theorem served_with_bus : ∃ s : State 1 2, Reachable mainKinds s ∧ s.fan.ctxDone = false ∧
    s.fan.emitted ≠ [] ∧ Serves mainKinds s := by
  have h0 := reachable_started
  have h1 := h0.tail ⟨_, .connect (j := 0) rfl⟩
  have h2 := h1.tail ⟨_, .kernel (i := 0) (.readRecord (video0 1) rfl rfl)⟩
  have h3 := h2.tail ⟨_, .pass (i := 0) (.ok .capture) (.send rfl) rfl ⟨rfl, rfl⟩⟩
  refine ⟨_, h3, rfl, List.cons_ne_nil _ _, (dead_notifier_iff _ h3 rfl).2 ?_⟩
  rintro ⟨j, err, hj⟩
  obtain rfl | rfl : j = 0 ∨ j = 1 := by omega
  · cases hj
  · cases hj

end Main
