import CameraCoordinator.Coordinator.Run
import CameraCoordinator.Lib.Chan
import CameraCoordinator.Lib.Fan
import CameraCoordinator.Lib.Runs

/-!
# The concurrent coordinator

`CameraCoordinator.Run` and `broadcastEvent` between the channels they use, as a step relation: the
environment offers events, cancels the context, closes the events channel and consumes from the
outputs whenever it likes, and each `select` of the code takes any of its cases that is ready.
`Run`'s body for an event is `Coord.onEvent`, so between its communications the loop is the
sequential one (`Inv.active`, `Inv.emitted`).

Recorded beside the program's state: the events offered and received, the emissions in order, and
what each output was sent, every event with the position of its emission. `Fanned` says how the
outputs stand to the emissions at every point of a broadcast, with or without cancellation;
`fan_out_agreement` is what this means for the outputs.
-/

set_option autoImplicit false

namespace FanOut

open Coord (Received GoError)

/-! ## States -/

/-- An output channel and its consumer. -/
structure Output where
  chan : Chan CameraEvent
  /-- What was sent to it, with the positions of the emissions. -/
  sent : List (CameraEvent × Nat)
  consumed : List CameraEvent

/-- Where `Run` is: at its `select`, in `broadcastEvent` at the output of the given index, or
returned. -/
inductive Pc
  | select
  | broadcast (ev : CameraEvent) (i : Nat)
  | returned
  deriving DecidableEq

structure State (n : Nat) where
  ctxDone : Bool
  events : Chan CameraEvent
  offered : List CameraEvent
  received : List Received
  active : Coord.Active
  pc : Pc
  emitted : List CameraEvent
  outputs : Fin n → Output

variable {n : Nat}

/-- `Run` is called, on channels of any capacities. -/
def init (cap : Nat) (caps : Fin n → Nat) : State n where
  ctxDone := false
  events := .make cap
  offered := []
  received := []
  active := ∅
  pc := .select
  emitted := []
  outputs := fun j => ⟨.make (caps j), [], []⟩

/-! ## Steps -/

/-- The body of the loop for a received event, up to its call of `broadcastEvent` if there is
one. -/
def State.handle (s : State n) (r : Received) : State n :=
  let result := Coord.onEvent s.active r
  { s with
    received := s.received ++ [r]
    active := result.1
    pc := match result.2 with
      | none => .select
      | some ev => .broadcast ev 0
    emitted := s.emitted ++ result.2.toList }

/-- `out <- ev` of the `k`th emission: into the buffer, or to a consumer that is waiting. -/
inductive Passes (ev : CameraEvent) (k : Nat) : Output → Output → Prop
  | buffer {o : Output} {c : Chan CameraEvent} : o.chan.send ev = some c →
      Passes ev k o { o with chan := c, sent := o.sent ++ [(ev, k)] }
  | handoff {o : Output} : o.chan.Idle →
      Passes ev k o { o with sent := o.sent ++ [(ev, k)], consumed := o.consumed ++ [ev] }

/-- A receive by the consumer of an output. -/
def Output.consume (o : Output) : Option Output :=
  match o.chan.recv with
  | some (some ev, c) => some { o with chan := c, consumed := o.consumed ++ [ev] }
  | _ => none

inductive Step : State n → State n → Prop
  -- the environment
  | cancel {s : State n} : Step s { s with ctxDone := true }
  | offer {s : State n} {ev : CameraEvent} {c : Chan CameraEvent} : s.events.send ev = some c →
      Step s { s with events := c, offered := s.offered ++ [ev] }
  | closeEvents {s : State n} : s.events.closed = false → Step s { s with events := s.events.close }
  | consume {s : State n} {j : Fin n} {o : Output} : (s.outputs j).consume = some o →
      Step s { s with outputs := Function.update s.outputs j o }
  -- the select of `Run`
  | recvDone {s : State n} : s.pc = .select → s.ctxDone = true → Step s { s with pc := .returned }
  | recvClosed {s : State n} {c : Chan CameraEvent} : s.pc = .select →
      s.events.recv = some (none, c) → Step s { s with pc := .returned }
  | recv {s : State n} {ev : CameraEvent} {c : Chan CameraEvent}
      (query : Except GoError V4L2Capability) : s.pc = .select →
      s.events.recv = some (some ev, c) → Step s (State.handle { s with events := c } ⟨ev, query⟩)
  | recvHandoff {s : State n} (ev : CameraEvent) (query : Except GoError V4L2Capability) :
      s.pc = .select → s.events.Idle →
      Step s (State.handle { s with offered := s.offered ++ [ev] } ⟨ev, query⟩)
  -- the loop of `broadcastEvent`
  | send {s : State n} {ev : CameraEvent} {i : Fin n} {o : Output} : s.pc = .broadcast ev i →
      Passes ev (s.emitted.length - 1) (s.outputs i) o →
      Step s { s with pc := .broadcast ev (i + 1), outputs := Function.update s.outputs i o }
  | giveUp {s : State n} {ev : CameraEvent} {i : Fin n} : s.pc = .broadcast ev i →
      s.ctxDone = true → Step s { s with pc := .select }
  | finish {s : State n} {ev : CameraEvent} : s.pc = .broadcast ev n →
      Step s { s with pc := .select }

/-- The states of the runs on channels of the given capacities. -/
def Reachable (cap : Nat) (caps : Fin n → Nat) (s : State n) : Prop :=
  Relation.ReflTransGen Step (init cap caps) s

theorem Passes.sent_eq {ev : CameraEvent} {k : Nat} {o o' : Output} (h : Passes ev k o o') :
    o'.sent = o.sent ++ [(ev, k)] := by
  cases h <;> rfl

theorem Passes.stream_eq {ev : CameraEvent} {k : Nat} {o o' : Output} (h : Passes ev k o o') :
    o'.consumed ++ o'.chan.buf = o.consumed ++ o.chan.buf ++ [ev] := by
  cases h with
  | buffer hs => simp [Chan.buf_of_send hs]
  | handoff hi => simp [hi.2]

theorem Output.consume_eq {o o' : Output} (h : o.consume = some o') :
    o'.sent = o.sent ∧ o'.consumed ++ o'.chan.buf = o.consumed ++ o.chan.buf := by
  unfold Output.consume at h
  split at h
  · rename_i ev c hr
    cases h
    simp [(Chan.recv_some hr).1]
  · cases h

theorem Output.consume_chan {o o' : Output} (h : o.consume = some o') :
    o'.chan.cap = o.chan.cap ∧ o'.chan.closed = o.chan.closed := by
  unfold Output.consume at h
  split at h
  · rename_i ev c hr
    cases h
    exact ⟨Chan.cap_of_recv hr, (Chan.recv_some hr).2⟩
  · cases h

theorem Passes.chan_eq {ev : CameraEvent} {k : Nat} {o o' : Output} (h : Passes ev k o o') :
    o'.chan.cap = o.chan.cap ∧ o'.chan.closed = o.chan.closed := by
  cases h with
  | buffer hs =>
    obtain ⟨hopen, hopen'⟩ := Chan.closed_of_send hs
    exact ⟨Chan.cap_of_send hs, hopen'.trans hopen.symm⟩
  | handoff _ => exact ⟨rfl, rfl⟩

/-- The channels keep their capacities, and the outputs stay open. -/
theorem Step.caps {s s' : State n} (h : Step s s') : s'.events.cap = s.events.cap ∧
    ∀ j, (s'.outputs j).chan.cap = (s.outputs j).chan.cap ∧
      (s'.outputs j).chan.closed = (s.outputs j).chan.closed := by
  have hupdate : ∀ (i : Fin n) (o : Output), o.chan.cap = (s.outputs i).chan.cap ∧
      o.chan.closed = (s.outputs i).chan.closed → ∀ j,
      (Function.update s.outputs i o j).chan.cap = (s.outputs j).chan.cap ∧
      (Function.update s.outputs i o j).chan.closed = (s.outputs j).chan.closed := by
    intro i o ho j
    by_cases hj : j = i
    · subst hj
      simpa using ho
    · rw [Function.update_of_ne hj]
      exact ⟨rfl, rfl⟩
  cases h with
  | offer hsend => exact ⟨Chan.cap_of_send hsend, fun _ => ⟨rfl, rfl⟩⟩
  | recv _ _ hrecv => exact ⟨Chan.cap_of_recv hrecv, fun _ => ⟨rfl, rfl⟩⟩
  | consume hcons => exact ⟨rfl, hupdate _ _ (Output.consume_chan hcons)⟩
  | send _ hpass => exact ⟨rfl, hupdate _ _ hpass.chan_eq⟩
  | _ => exact ⟨rfl, fun _ => ⟨rfl, rfl⟩⟩

theorem reachable_caps {cap : Nat} {caps : Fin n → Nat} {s : State n} (h : Reachable cap caps s) :
    s.events.cap = cap ∧ ∀ j, (s.outputs j).chan.cap = caps j ∧
      (s.outputs j).chan.closed = false := by
  refine h.invariant (P := fun s => s.events.cap = cap ∧ ∀ j, (s.outputs j).chan.cap = caps j ∧
    (s.outputs j).chan.closed = false) ⟨rfl, fun _ => ⟨rfl, rfl⟩⟩ fun hstep hs => ?_
  obtain ⟨hcap, hout⟩ := hstep.caps
  exact ⟨hcap.trans hs.1, fun j => ⟨(hout j).1.trans (hs.2 j).1, (hout j).2.trans (hs.2 j).2⟩⟩

/-! ## The invariants -/

/-- How the outputs stand to the emissions. Until the context is cancelled every output has been
sent everything but for the round in progress. -/
def Fanned (s : State n) : Prop :=
  match s.pc with
  | .broadcast ev k => ∃ es old, s.emitted = es ++ [ev] ∧ k ≤ n ∧ Fan es old ∧
      (s.ctxDone = false → old = fun _ => es.zipIdx) ∧
      (fun j => (s.outputs j).sent) = inRound es ev k old
  | _ => Fan s.emitted (fun j => (s.outputs j).sent) ∧
      (s.ctxDone = false → (fun j => (s.outputs j).sent) = fun _ => s.emitted.zipIdx)

/-- How the loop stands to the sequential one, and the channels to their histories. -/
structure Inv (s : State n) : Prop where
  active : s.active = Coord.active s.received
  emitted : s.emitted = Coord.broadcasts s.received
  offered : s.received.map (·.ev) ++ s.events.buf = s.offered
  returned : s.pc = .returned → s.ctxDone = false → s.events.closed = true ∧ s.events.buf = []
  stream : ∀ j, (s.outputs j).consumed ++ (s.outputs j).chan.buf = (s.outputs j).sent.map Prod.fst
  fanned : Fanned s

/-- At the `select` or after the return. -/
theorem fanned_of_not_broadcast {s : State n} (h : ∀ ev k, s.pc ≠ .broadcast ev k) :
    Fanned s ↔ Fan s.emitted (fun j => (s.outputs j).sent) ∧
      (s.ctxDone = false → (fun j => (s.outputs j).sent) = fun _ => s.emitted.zipIdx) := by
  unfold Fanned
  split
  · rename_i ev k hpc
    exact absurd hpc (h ev k)
  · rfl

theorem fanned_of_broadcast {s : State n} {ev : CameraEvent} {k : Nat}
    (h : s.pc = .broadcast ev k) :
    Fanned s ↔ ∃ es old, s.emitted = es ++ [ev] ∧ k ≤ n ∧ Fan es old ∧
      (s.ctxDone = false → old = fun _ => es.zipIdx) ∧
      (fun j => (s.outputs j).sent) = inRound es ev k old := by
  unfold Fanned
  rw [h]

/-- It is about the emissions, what was sent and where `Run` is, and cancelling only weakens it. -/
theorem Fanned.congr {s s' : State n} (h : Fanned s) (hpc : s'.pc = s.pc)
    (hctx : s'.ctxDone = false → s.ctxDone = false) (hem : s'.emitted = s.emitted)
    (hsent : ∀ j, (s'.outputs j).sent = (s.outputs j).sent) : Fanned s' := by
  have hfun : (fun j => (s'.outputs j).sent) = fun j => (s.outputs j).sent := funext hsent
  cases hs : s.pc with
  | broadcast ev k =>
    rw [fanned_of_broadcast hs] at h
    obtain ⟨es, old, he, hk, hfan, hold, hround⟩ := h
    rw [fanned_of_broadcast (hpc.trans hs), hem, hfun]
    exact ⟨es, old, he, hk, hfan, fun hc => hold (hctx hc), hround⟩
  | _ =>
    rw [fanned_of_not_broadcast (by simp [hs])] at h
    rw [fanned_of_not_broadcast (by simp [hpc, hs]), hem, hfun]
    exact ⟨h.1, fun hc => h.2 (hctx hc)⟩

/-- Wherever `Run` is, the outputs are fanned out to. -/
theorem Fanned.fan {s : State n} (h : Fanned s) : Fan s.emitted fun j => (s.outputs j).sent := by
  cases hs : s.pc with
  | broadcast ev k =>
    rw [fanned_of_broadcast hs] at h
    obtain ⟨es, old, he, -, hfan, -, hround⟩ := h
    rw [he, hround]
    exact hfan.round ev k
  | _ =>
    rw [fanned_of_not_broadcast (by simp [hs])] at h
    exact h.1

theorem init_inv (cap : Nat) (caps : Fin n → Nat) : Inv (init cap caps) where
  active := rfl
  emitted := rfl
  offered := rfl
  returned := by rintro ⟨⟩
  stream := fun _ => rfl
  fanned := ⟨Fan.nil, fun _ => rfl⟩

/-! ## One step -/

/-- A received event starts a round if it is broadcast. -/
theorem fanned_handle {s : State n} (r : Received) (hpc : s.pc = .select) (h : Fanned s) :
    Fanned (s.handle r) := by
  obtain ⟨hfan, hall⟩ := (fanned_of_not_broadcast (by simp [hpc])).1 h
  cases hr : (Coord.onEvent s.active r).2 with
  | none =>
    refine h.congr ?_ id ?_ fun _ => rfl
    · simp [State.handle, hr, hpc]
    · simp [State.handle, hr]
  | some ev =>
    have hpc' : (s.handle r).pc = .broadcast ev 0 := by simp [State.handle, hr]
    have hem : (s.handle r).emitted = s.emitted ++ [ev] := by simp [State.handle, hr]
    rw [fanned_of_broadcast hpc', hem]
    exact ⟨s.emitted, _, rfl, Nat.zero_le n, hfan, hall, (inRound_zero _ _ _).symm⟩

/-- A send takes the round to the next output. -/
theorem fanned_send {s : State n} {ev : CameraEvent} {i : Fin n} {o : Output}
    (hpc : s.pc = .broadcast ev i) (hpass : Passes ev (s.emitted.length - 1) (s.outputs i) o)
    (h : Fanned s) : Fanned { s with
      pc := .broadcast ev (i + 1), outputs := Function.update s.outputs i o } := by
  obtain ⟨es, old, hem, -, hfan, hold, hround⟩ := (fanned_of_broadcast hpc).1 h
  have hsent : o.sent = old i ++ [(ev, es.length)] := by
    have hi := congrFun hround i
    rw [inRound_self] at hi
    rw [hpass.sent_eq, hem, ← hi]
    simp
  rw [fanned_of_broadcast rfl]
  refine ⟨es, old, hem, i.isLt, hfan, hold, ?_⟩
  rw [inRound_succ, ← hround, ← hsent]
  funext j
  by_cases hj : j = i
  · subst hj; simp
  · simp [hj]

theorem fanned_giveUp {s : State n} (hctx : s.ctxDone = true) (h : Fanned s) :
    Fanned { s with pc := .select } := by
  rw [fanned_of_not_broadcast (by simp)]
  exact ⟨h.fan, fun hc => by simp [hctx] at hc⟩

/-- A round that gets through leaves every output with everything, if they had everything. -/
theorem fanned_finish {s : State n} {ev : CameraEvent} (hpc : s.pc = .broadcast ev n)
    (h : Fanned s) : Fanned { s with pc := .select } := by
  have hfan := h.fan
  obtain ⟨es, old, hem, -, -, hold, hround⟩ := (fanned_of_broadcast hpc).1 h
  rw [fanned_of_not_broadcast (by simp)]
  refine ⟨hfan, fun hc => ?_⟩
  show (fun j => (s.outputs j).sent) = fun _ => s.emitted.zipIdx
  rw [hround, hold hc, hem]
  exact inRound_all es ev (Nat.le_refl n)

/-- The loop's body is a step of the sequential loop. -/
theorem handle_inv {s s₀ : State n} {r : Received} (hs : Inv s) (hpc : s.pc = .select)
    (hctx : s₀.ctxDone = s.ctxDone) (hrec : s₀.received = s.received) (hact : s₀.active = s.active)
    (hpc₀ : s₀.pc = s.pc) (hem : s₀.emitted = s.emitted) (hout : s₀.outputs = s.outputs)
    (hoff : s.received.map (·.ev) ++ r.ev :: s₀.events.buf = s₀.offered) : Inv (s₀.handle r) where
  active := by
    show (Coord.onEvent s₀.active r).1 = Coord.active (s₀.received ++ [r])
    rw [Coord.active_snoc, hrec, hact, hs.active]
  emitted := by
    show s₀.emitted ++ (Coord.onEvent s₀.active r).2.toList = Coord.broadcasts (s₀.received ++ [r])
    rw [Coord.broadcasts_snoc, hem, hrec, hact, hs.emitted, hs.active]
  offered := by
    show (s₀.received ++ [r]).map (·.ev) ++ s₀.events.buf = s₀.offered
    simpa [hrec] using hoff
  returned := by
    intro h
    cases hr : (Coord.onEvent s₀.active r).2 <;> simp [State.handle, hr] at h
  stream := by
    intro j
    show (s₀.outputs j).consumed ++ (s₀.outputs j).chan.buf = (s₀.outputs j).sent.map Prod.fst
    rw [hout]
    exact hs.stream j
  fanned := by
    refine fanned_handle r (hpc₀.trans hpc) (hs.fanned.congr hpc₀ (fun h => hctx ▸ h) hem ?_)
    intro j
    rw [hout]

theorem stream_update {s : State n} (hs : Inv s) {i : Fin n} {o : Output}
    (ho : o.consumed ++ o.chan.buf = o.sent.map Prod.fst) (j : Fin n) :
    (Function.update s.outputs i o j).consumed ++ (Function.update s.outputs i o j).chan.buf =
      (Function.update s.outputs i o j).sent.map Prod.fst := by
  by_cases hj : j = i
  · subst hj
    simpa using ho
  · rw [Function.update_of_ne hj]
    exact hs.stream j

/-- **Every step keeps the invariants.** -/
theorem step_inv {s s' : State n} (hs : Inv s) (hstep : Step s s') : Inv s' := by
  cases hstep with
  | cancel =>
    exact ⟨hs.active, hs.emitted, hs.offered, fun _ h => by simp at h, hs.stream,
      hs.fanned.congr rfl (fun h => by simp at h) rfl fun _ => rfl⟩
  | @offer ev c hsend =>
    refine ⟨hs.active, hs.emitted, ?_, fun hpc hc => ?_, hs.stream,
      hs.fanned.congr rfl id rfl fun _ => rfl⟩
    · show s.received.map (·.ev) ++ c.buf = s.offered ++ [ev]
      rw [Chan.buf_of_send hsend, ← List.append_assoc, hs.offered]
    · have hopen := (Chan.closed_of_send hsend).1
      rw [(hs.returned hpc hc).1] at hopen
      cases hopen
  | closeEvents hopen =>
    refine ⟨hs.active, hs.emitted, hs.offered, fun hpc hc => ⟨rfl, (hs.returned hpc hc).2⟩,
      hs.stream, hs.fanned.congr rfl id rfl fun _ => rfl⟩
  | @consume j o hcons =>
    obtain ⟨hsent, hstream⟩ := Output.consume_eq hcons
    have ho : o.consumed ++ o.chan.buf = o.sent.map Prod.fst := by
      rw [hstream, hsent, hs.stream j]
    refine ⟨hs.active, hs.emitted, hs.offered, hs.returned, stream_update hs ho,
      hs.fanned.congr rfl id rfl fun i => ?_⟩
    by_cases hi : i = j
    · subst hi
      simpa using hsent
    · simp [hi]
  | recvDone _ hctx =>
    refine ⟨hs.active, hs.emitted, hs.offered, fun _ hc => ?_, hs.stream, ?_⟩
    · rw [hctx] at hc
      cases hc
    · rw [fanned_of_not_broadcast (by simp)]
      exact ⟨hs.fanned.fan, fun hc => by simp [hctx] at hc⟩
  | recvClosed hpc hrecv =>
    obtain ⟨hbuf, hclosed⟩ := Chan.recv_none hrecv
    have hfanned := hs.fanned
    rw [fanned_of_not_broadcast (by simp [hpc])] at hfanned
    refine ⟨hs.active, hs.emitted, hs.offered, fun _ _ => ⟨hclosed, hbuf⟩, hs.stream, ?_⟩
    rw [fanned_of_not_broadcast (by simp)]
    exact hfanned
  | @recv ev c query hpc hrecv =>
    refine handle_inv hs hpc rfl rfl rfl rfl rfl rfl ?_
    have hoff := hs.offered
    rw [(Chan.recv_some hrecv).1] at hoff
    exact hoff
  | recvHandoff ev query hpc hidle =>
    refine handle_inv hs hpc rfl rfl rfl rfl rfl rfl ?_
    show s.received.map (·.ev) ++ ev :: s.events.buf = s.offered ++ [ev]
    rw [← hs.offered, hidle.2, List.append_nil]
  | @send ev i o hpc hpass =>
    refine ⟨hs.active, hs.emitted, hs.offered, fun h => by simp at h, stream_update hs ?_,
      fanned_send hpc hpass hs.fanned⟩
    rw [hpass.stream_eq, hpass.sent_eq, hs.stream i]
    simp
  | giveUp hpc hctx =>
    exact ⟨hs.active, hs.emitted, hs.offered, fun h => by simp at h, hs.stream,
      fanned_giveUp hctx hs.fanned⟩
  | finish hpc =>
    exact ⟨hs.active, hs.emitted, hs.offered, fun h => by simp at h, hs.stream,
      fanned_finish hpc hs.fanned⟩

/-- **Every reachable state meets the invariants.** -/
theorem reachable_inv {cap : Nat} {caps : Fin n → Nat} {s : State n} (h : Reachable cap caps s) :
    Inv s :=
  h.invariant (init_inv cap caps) fun hstep hs => step_inv hs hstep

/-- Until the context is cancelled, all outputs were sent all emissions between broadcasts. -/
theorem Inv.sent_of_idle {s : State n} (hs : Inv s) (hctx : s.ctxDone = false)
    (hpc : ∀ ev i, s.pc ≠ .broadcast ev i) (j : Fin n) :
    (s.outputs j).sent = s.emitted.zipIdx := by
  have hfanned := (fanned_of_not_broadcast hpc).1 hs.fanned
  exact congrFun (hfanned.2 hctx) j

/-- Until then, in a broadcast the outputs before the current one were sent the emission. -/
theorem Inv.sent_of_broadcast {s : State n} (hs : Inv s) (hctx : s.ctxDone = false)
    {ev : CameraEvent} {k : Nat} (hpc : s.pc = .broadcast ev k) :
    ∃ es, s.emitted = es ++ [ev] ∧
      ∀ j, (s.outputs j).sent = inRound es ev k (fun _ => es.zipIdx) j := by
  obtain ⟨es, old, hem, -, -, hold, hround⟩ := (fanned_of_broadcast hpc).1 hs.fanned
  rw [hold hctx] at hround
  exact ⟨es, hem, congrFun hround⟩

/-- Until then an output was sent a prefix of the emissions, at most one short. -/
theorem Inv.sent_prefix {s : State n} (hs : Inv s) (hctx : s.ctxDone = false) (j : Fin n) :
    (s.outputs j).sent <+: s.emitted.zipIdx ∧
      s.emitted.length ≤ (s.outputs j).sent.length + 1 := by
  cases hpc : s.pc with
  | broadcast ev k =>
    obtain ⟨es, hem, hsent⟩ := hs.sent_of_broadcast hctx hpc
    rw [hsent j, hem, zipIdx_snoc]
    unfold inRound
    split
    · exact ⟨List.prefix_refl _, by simp⟩
    · exact ⟨List.prefix_append _ _, by simp⟩
  | _ =>
    rw [hs.sent_of_idle hctx (by simp [hpc]) j]
    exact ⟨List.prefix_refl _, by simp⟩

/-- **The outputs agree.** In every reachable state the emissions are those of the sequential loop,
each output was sent a subsequence of them, and what was sent to an output was sent to all outputs
before it. Until the context is cancelled, what a later output was sent is a prefix of what an
earlier one was sent, at most one shorter, and between broadcasts all were sent all emissions; if
`Run` has returned by then, these are the emissions of all events that were offered. -/
theorem fan_out_agreement (cap : Nat) (caps : Fin n → Nat) (s : State n)
    (hs : Reachable cap caps s) :
    s.emitted = Coord.broadcasts s.received ∧
    (∀ j, (s.outputs j).consumed ++ (s.outputs j).chan.buf = (s.outputs j).sent.map Prod.fst) ∧
    (∀ j, (s.outputs j).sent.Sublist s.emitted.zipIdx) ∧
    (∀ i j, i < j → (s.outputs j).sent ⊆ (s.outputs i).sent) ∧
    (s.ctxDone = false →
      (∀ i j, i < j → (s.outputs j).sent <+: (s.outputs i).sent ∧
        (s.outputs i).sent.length ≤ (s.outputs j).sent.length + 1) ∧
      ((∀ ev i, s.pc ≠ .broadcast ev i) → ∀ j, (s.outputs j).sent = s.emitted.zipIdx) ∧
      (s.pc = .returned → s.received.map (·.ev) = s.offered ∧
        ∀ j, (s.outputs j).sent = (Coord.broadcasts s.received).zipIdx)) := by
  have hinv := reachable_inv hs
  have hfan := hinv.fanned.fan
  refine ⟨hinv.emitted, hinv.stream, hfan.sublist, fun i j hij => (hfan.mono i j hij).subset,
    fun hc => ⟨?_, hinv.sent_of_idle hc, ?_⟩⟩
  · intro i j hij
    cases hpc : s.pc with
    | broadcast ev k =>
      obtain ⟨es, -, hsent⟩ := hinv.sent_of_broadcast hc hpc
      rw [hsent i, hsent j]
      exact inRound_prefix es ev k hij
    | _ =>
      have hidle := hinv.sent_of_idle hc (by simp [hpc])
      rw [hidle i, hidle j]
      exact ⟨List.prefix_refl _, Nat.le_succ _⟩
  · intro hpc
    obtain ⟨-, hbuf⟩ := hinv.returned hpc hc
    have hoff := hinv.offered
    rw [hbuf, List.append_nil] at hoff
    refine ⟨hoff, fun j => ?_⟩
    rw [← hinv.emitted]
    exact hinv.sent_of_idle hc (by simp [hpc]) j

/-- An event that reaches both outputs. -/
theorem sent_to_both : ∃ s : State 2, Reachable 0 (fun _ => 1) s ∧ s.emitted ≠ [] ∧
    ∀ j, (s.outputs j).sent = s.emitted.zipIdx := by
  have h0 : Reachable 0 (fun _ => 1) (init 0 fun _ : Fin 2 => 1) := .refl
  have h1 := h0.tail (.recvHandoff (.test cameraEventRecordingOn) (.ok .capture) rfl ⟨rfl, rfl⟩)
  have h2 := h1.tail (.send (i := 0) rfl (.buffer rfl))
  have h3 := h2.tail (.send (i := 1) rfl (.buffer rfl))
  have h4 := h3.tail (.finish rfl)
  have hagree := fan_out_agreement _ _ _ h4
  exact ⟨_, h4, List.cons_ne_nil _ _, (hagree.2.2.2.2 rfl).2.1 fun ev i hpc => by cases hpc⟩

end FanOut
