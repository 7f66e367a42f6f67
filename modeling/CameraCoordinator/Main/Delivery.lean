import CameraCoordinator.Main.DeadNotifier
import CameraCoordinator.Lib.Interleave

/-!
# Delivery

What the records of the detectors become at the notifiers. `delivered`: in every state reached the
coordinator has received an interleaving of what the detectors sent, and a notifier is behind what
is broadcast for it by no more than its channel and the broadcast in progress.

`settled`: before cancellation, wherever no goroutine has a step the coordinator is blocked on a
dead notifier, or every event of every record has been received and every broadcast consumed.
-/

set_option autoImplicit false

namespace Main

open Detect (image readLoop_image)

variable {d n : Nat} {kinds : Fin n → Kind} {a : Actor d n} {s s' : State d n}

/-! ## What the coordinator receives -/

/-- What the coordinator has received, in terms of what the detectors have sent. -/
def Receives (s : State d n) : Prop :=
  Interleaves (fun i => (s.detectors i).sent) (s.fan.received.map (·.ev))

/-- A detector sends nothing in a step by itself. -/
theorem sent_of_quiet {ctxDone : Bool} {t t' : Detect.State} {b : Detect.Act}
    (h : Detect.Step ctxDone t b t') (hb : ∀ ev, b ≠ .send ev) : t'.sent = t.sent := by
  cases h with
  | send => exact absurd rfl (hb _)
  | _ => rfl

theorem Receives.setDetector {i : Fin d} {t : Detect.State} (h : Receives s)
    (ht : t.sent = (s.detectors i).sent) : Receives (s.setDetector i t) := by
  refine h.congr fun k => ?_
  by_cases hk : k = i
  · subst hk
    simpa [State.setDetector] using ht
  · simp [State.setDetector, hk]

theorem Receives.step (h : Step kinds a s s') (hs : Receives s) : Receives s' := by
  cases h with
  | kernel ht | detector ht => exact hs.setDetector (sent_of_quiet ht (by simp))
  | @pass _ i t ev query ht hpc _ =>
    have hsent : t.sent = (s.detectors i).sent ++ [ev] := by
      cases ht
      rfl
    have hrec : ((s.setDetector i t).receive ev query).fan.received.map (·.ev) =
        s.fan.received.map (·.ev) ++ [ev] := by
      simp [State.receive, State.setDetector, FanOut.State.handle]
    unfold Receives
    rw [hrec]
    refine (Interleaves.snoc hs i ev).congr fun k => ?_
    by_cases hk : k = i
    · subst hk
      simpa [State.receive, State.setDetector] using hsent
    · simp [State.receive, State.setDetector, hk]
  | _ => exact hs

theorem reachable_receives (h : Reachable kinds s) : Receives s :=
  h.invariant_labelled (P := Receives) (.congr .nil fun _ => rfl) Receives.step

/-- A notifier consumes at most one event in a step, and none in one that cancels the context. -/
theorem Step.consumed (h : Step kinds a s s') (j : Fin n) :
    (s'.fan.ctxDone = s.fan.ctxDone ∧
      ((s'.fan.outputs j).consumed = (s.fan.outputs j).consumed ∨
        ∃ ev, (s'.fan.outputs j).consumed = (s.fan.outputs j).consumed ++ [ev])) ∨
    s'.fan.ctxDone = true ∧ (s'.fan.outputs j).consumed = (s.fan.outputs j).consumed := by
  cases h with
  | cancel => exact .inr ⟨rfl, rfl⟩
  | @send _ ev i c _ _ =>
    refine .inl ⟨rfl, .inl ?_⟩
    by_cases hj : j = i
    · subst hj
      simp [State.setOutput]
    · simp [State.setOutput, State.setPc, hj]
  | @consume _ i ev c _ _ =>
    refine .inl ⟨rfl, ?_⟩
    by_cases hj : j = i
    · subst hj
      exact .inr ⟨ev, by simp [State.setOutput]⟩
    · exact .inl (by simp [State.setOutput, State.setNotifier, hj])
  | _ => exact .inl ⟨rfl, .inl rfl⟩

/-- A notifier consumes a subsequence of what is broadcast. -/
theorem Inv.consumed_sublist (hs : Inv kinds s) (j : Fin n) :
    (s.fan.outputs j).consumed.Sublist (Coord.broadcasts s.fan.received) := by
  have hfan := FanOut.reachable_inv hs.fan
  have hsub := (hfan.fanned.fan.sublist j).map Prod.fst
  rw [← hfan.stream j, List.zipIdx_map_fst, hfan.emitted] at hsub
  exact (List.sublist_append_left _ _).trans hsub

/-- **What is sent is received and passed on.** In every reachable state the events received are an
interleaving of what the detectors sent, each a prefix of the image of its records, and a notifier
has consumed a subsequence of what is broadcast for the events received. Until the context is
cancelled it has consumed a prefix, short of it by at most the one event in its channel and the one
in progress. -/
theorem delivered (kinds : Fin n → Kind) (s : State d n) (hs : Reachable kinds s) :
    (∀ i, (s.detectors i).sent <+: image (s.detectors i).read) ∧
    Interleaves (fun i => (s.detectors i).sent) (s.fan.received.map (·.ev)) ∧
    ∀ j, (s.fan.outputs j).consumed.Sublist (Coord.broadcasts s.fan.received) ∧
      (s.fan.ctxDone = false →
        (s.fan.outputs j).consumed <+: Coord.broadcasts s.fan.received ∧
        (Coord.broadcasts s.fan.received).length ≤ (s.fan.outputs j).consumed.length + 2) := by
  have hinv := reachable_inv hs
  have hfan := FanOut.reachable_inv hinv.fan
  refine ⟨fun i => ?_, reachable_receives hs, fun j => ⟨hinv.consumed_sublist j, fun hctx => ?_⟩⟩
  · rw [← (readLoop_image _).1]
    exact Detect.Inv.sent_prefix (hinv.detectors i)
  · obtain ⟨hinit, hlag⟩ := hfan.sent_prefix hctx j
    have hmap := hinit.map Prod.fst
    have hstream := hfan.stream j
    have hlen := congrArg List.length hstream
    have hcap := (s.fan.outputs j).chan.le_cap
    rw [(hinv.chan_open j).1] at hcap
    rw [← hstream, List.zipIdx_map_fst] at hmap
    rw [List.length_append, List.length_map] at hlen
    rw [← hfan.emitted]
    exact ⟨(List.prefix_append _ _).trans hmap, by omega⟩

/-- An event is received and not yet passed on. -/
theorem delivered_of_received : ∃ s : State 1 2, Reachable mainKinds s ∧
    s.fan.received.length = 1 ∧ (Coord.broadcasts s.fan.received).length = 1 ∧
    (Coord.broadcasts s.fan.received).length ≤ (s.fan.outputs 0).consumed.length + 2 := by
  have h0 := reachable_started
  have h1 := h0.tail ⟨_, .kernel (i := 0) (.readRecord (video0 1) rfl rfl)⟩
  have h2 := h1.tail ⟨_, .pass (i := 0) (.ok .capture) (.send rfl) rfl ⟨rfl, rfl⟩⟩
  exact ⟨_, h2, rfl, rfl, (((delivered _ _ h2).2.2 0).2 rfl).2⟩

/-! ## States without a step -/

/-- A notifier that returns uncancelled without an error has drained its channel, which is closed.
-/
def Drained (s : State d n) : Prop :=
  ∀ j, s.notifiers j = .returned none → s.fan.ctxDone = false →
    (s.fan.outputs j).chan.buf = [] ∧ 0 < s.outCloses j

theorem Drained.congr (h : Drained s)
    (hp : ∀ j, s'.notifiers j = .returned none → s.notifiers j = .returned none ∧
      (s'.fan.outputs j).chan.buf = (s.fan.outputs j).chan.buf)
    (hctx : s'.fan.ctxDone = s.fan.ctxDone) (hcount : ∀ j, s.outCloses j ≤ s'.outCloses j) :
    Drained s' := by
  intro j hj hc
  obtain ⟨hret, hbuf⟩ := hp j hj
  obtain ⟨hempty, hpos⟩ := h j hret (hctx ▸ hc)
  exact ⟨hbuf.trans hempty, Nat.lt_of_lt_of_le hpos (hcount j)⟩

/-- A notifier goes somewhere else than to its end. -/
theorem Drained.setNotifier {i : Fin n} {p : Notifier} (h : Drained s) (hp : p ≠ .returned none) :
    Drained (s.setNotifier i p) := by
  refine h.congr (fun j hj => ?_) rfl fun _ => Nat.le_refl _
  by_cases hji : j = i
  · subst hji
    exact absurd (by simpa [State.setNotifier] using hj) hp
  · exact ⟨by simpa [State.setNotifier, hji] using hj, rfl⟩

theorem Drained.step (h : Step kinds a s s') (hinv : Inv kinds s) (hs : Drained s) :
    Drained s' := by
  have hsame : ∀ j, s.outCloses j ≤ s.outCloses j := fun _ => Nat.le_refl _
  cases h with
  | cancel => exact fun j _ hc => absurd hc (by simp [State.cancel])
  | @send _ ev i c hpc hsend =>
    intro j hj hc
    obtain ⟨hbuf, hpos⟩ := hs j hj hc
    have hret := hinv.fan_returned hpos
    rw [hpc] at hret
    cases hret
  | @closeOut _ i hc =>
    refine hs.congr (fun j hj => ⟨hj, rfl⟩) rfl fun j => ?_
    by_cases hj : j = i
    · subst hj
      simp
    · simp [hj]
  | connect | connectFails | emitted => exact hs.setNotifier (by simp)
  | notifierDone hp hctx => exact fun j _ hc => absurd (hctx.symm.trans hc) (by simp)
  | @consumeClosed _ i hp hbuf hpos =>
    intro j hj hc
    by_cases hji : j = i
    · subst hji
      exact ⟨hbuf, hpos⟩
    · exact hs j (by simpa [State.setNotifier, hji] using hj) hc
  | @consume _ i ev c hp hrecv =>
    refine hs.congr (fun j hj => ?_) rfl hsame
    by_cases hji : j = i
    · subst hji
      cases hk : kinds j <;> simp [State.setNotifier, State.setOutput, Kind.onEvent, hk] at hj
    · exact ⟨by simpa [State.setNotifier, State.setOutput, hji] using hj,
        by simp [State.setNotifier, State.setOutput, hji]⟩
  | _ => exact hs.congr (fun j hj => ⟨hj, rfl⟩) rfl hsame

theorem reachable_drained (h : Reachable kinds s) : Drained s := by
  refine h.invariant_reached (P := Drained) ?_ fun hrun hstep hs => ?_
  · intro j hj _
    cases hk : kinds j <;> simp [init, Kind.start, hk] at hj
  · obtain ⟨a, hstep⟩ := hstep
    exact hs.step hstep (reachable_inv hrun)

section
variable (hs : Inv kinds s) (hctx : s.fan.ctxDone = false) (hstuck : ¬ Moves kinds s)

section
include hstuck

/-- A notifier is not on its way. -/
theorem notifier_of_stuck (j : Fin n) : s.notifiers j = .receiving ∨
    ∃ err, s.notifiers j = .returned err := by
  cases hp : s.notifiers j with
  | connecting => exact absurd ⟨_, _, by simp, .connect hp⟩ hstuck
  | receiving => exact .inl rfl
  | emitting ev => exact absurd ⟨_, _, by simp, .emitted hp⟩ hstuck
  | returned err => exact .inr ⟨err, rfl⟩

/-- A notifier at its `select` has nothing to receive. -/
theorem buf_of_receiving {j : Fin n} (hp : s.notifiers j = .receiving) :
    (s.fan.outputs j).chan.buf = [] := by
  by_contra hne
  obtain ⟨ev, c, hrecv⟩ := Chan.exists_recv hne
  exact hstuck ⟨_, _, by simp, .consume hp hrecv⟩

include hs

/-- At its `select` the coordinator would take an event. -/
theorem events_idle (hpc : s.fan.pc = .select) : s.fan.events.Idle := by
  obtain ⟨hcap, -⟩ := FanOut.reachable_caps hs.fan
  have hbuf : s.fan.events.buf = [] :=
    List.length_eq_zero_iff.1 (Nat.le_zero.1 (hcap ▸ s.fan.events.le_cap))
  refine ⟨?_, hbuf⟩
  cases hclosed : s.fan.events.closed with
  | false => rfl
  | true => exact absurd ⟨_, _, by simp, .recvClosed hpc (Chan.recv_closed hbuf hclosed)⟩ hstuck

/-- The coordinator is in a broadcast only if a dead notifier blocks it. -/
theorem not_broadcast (hlive : ¬ DeadBlocked s) (ev : CameraEvent) (i : Nat) :
    s.fan.pc ≠ .broadcast ev i := by
  intro hpc
  rcases Nat.lt_or_ge i n with hi | hi
  · obtain ⟨hcap, hopen⟩ := hs.chan_open ⟨i, hi⟩
    cases hsend : (s.fan.outputs ⟨i, hi⟩).chan.send ev with
    | some c => exact hstuck ⟨_, _, by simp, .send (j := ⟨i, hi⟩) hpc hsend⟩
    | none =>
      rcases notifier_of_stuck hstuck ⟨i, hi⟩ with hp | ⟨err, hp⟩
      · have hfull := (Chan.send_eq_none hopen).1 hsend
        simp [hcap, buf_of_receiving hstuck hp] at hfull
      · exact hlive ⟨ev, ⟨i, hi⟩, hpc, hsend, err, hp⟩
  · obtain rfl : i = n := Nat.le_antisymm (hs.broadcast_le hpc) hi
    exact hstuck ⟨_, _, by simp, .finish hpc⟩

end

include hs hctx

/-- `coord.Run` has returned because `allEvents` is closed. -/
theorem events_closed (hpc : s.fan.pc = .returned) : s.fan.events.closed = true :=
  ((FanOut.reachable_inv hs.fan).returned hpc hctx).1

include hstuck

/-- A reader goroutine is at its `ReadInto`, or is not running. -/
theorem reader_of_stuck (hlive : ¬ DeadBlocked s) (i : Fin d) :
    (s.detectors i).reader = .readInto ∨ (s.detectors i).reader = .notStarted ∨
      (s.detectors i).reader = .finished := by
  cases hr : (s.detectors i).reader with
  | notStarted => exact .inr (.inl rfl)
  | readInto => exact .inl rfl
  | sending ev =>
    cases hpc : s.fan.pc with
    | select =>
      have hidle := events_idle hs hstuck hpc
      exact absurd ⟨_, _, by simp, .pass (.ok .capture) (.send hr) hpc hidle⟩ hstuck
    | broadcast ev k => exact absurd hpc (not_broadcast hs hstuck hlive ev k)
    | returned =>
      obtain ⟨err, ho⟩ := hs.detectorsReturned (events_closed hs hctx hpc) i
      rcases (hs.detectors i).reader_of_returned ho with h | h <;> · rw [hr] at h; cases h
  | reporting err =>
    obtain ⟨c, hc⟩ := (hs.detectors i).exists_send hr
    exact absurd ⟨_, _, by simp, .detector (.report hr hc)⟩ hstuck
  | finished => exact .inr (.inr rfl)

/-- Everything a detector has to send is sent. -/
theorem sent_of_stuck (hlive : ¬ DeadBlocked s) (i : Fin d) :
    (s.detectors i).sent = image (s.detectors i).read := by
  have hloop := (hs.detectors i).loop
  unfold Detect.Loop at hloop
  rw [hctx] at hloop
  rcases reader_of_stuck hs hctx hstuck hlive i with hr | hr | hr
  · rw [hr] at hloop
    exact hloop.2.2.symm.trans (readLoop_image _).1
  · rw [hr] at hloop
    rw [hloop.1, hloop.2.2]
    rfl
  · rw [hr] at hloop
    obtain ⟨err, -, hended⟩ := hloop
    exact hended.uncancelled.1

/-- What is broadcast for the events received has been consumed. -/
theorem consumed_of_stuck (hdrained : Drained s) (hlive : ¬ DeadBlocked s) (j : Fin n)
    (hj : ∀ err, s.notifiers j ≠ .returned (some err)) :
    (s.fan.outputs j).consumed = Coord.broadcasts s.fan.received := by
  have hfan := FanOut.reachable_inv hs.fan
  have hbuf : (s.fan.outputs j).chan.buf = [] := by
    rcases notifier_of_stuck hstuck j with hp | ⟨err, hp⟩
    · exact buf_of_receiving hstuck hp
    · cases err with
      | none => exact (hdrained j hp hctx).1
      | some err => exact absurd hp (hj err)
  have hstream := hfan.stream j
  rw [hbuf, List.append_nil, hfan.sent_of_idle hctx (not_broadcast hs hstuck hlive) j,
    List.zipIdx_map_fst, hfan.emitted] at hstream
  exact hstream

/-- A detector that has not returned waits for the kernel. -/
theorem detector_waits (hlive : ¬ DeadBlocked s) {i : Fin d}
    (hi : ∀ err, (s.detectors i).outer ≠ .returned err) :
    (s.detectors i).outer = .select ∧ (s.detectors i).reader = .readInto := by
  have hdet := hs.detectors i
  have hwaits := hdet.waits
  have hreader := reader_of_stuck hs hctx hstuck hlive i
  have htau : ∀ t, ¬ Detect.Step s.fan.ctxDone (s.detectors i) .tau t :=
    fun t ht => hstuck ⟨_, _, by simp, .detector ht⟩
  unfold Detect.Waits at hwaits
  cases ho : (s.detectors i).outer with
  | setup call =>
    cases hnext : call.next with
    | none => exact absurd (.start ho hnext) (htau _)
    | some call' => exact absurd (.setup ho hnext) (htau _)
  | select =>
    rw [ho] at hwaits
    rcases hreader with hr | hr | hr
    · exact ⟨rfl, hr⟩
    · exact absurd hr hwaits.1
    · have hloop := hdet.loop
      unfold Detect.Loop at hloop
      rw [hr] at hloop
      obtain ⟨err, hreported, -⟩ := hloop
      have hne : (s.detectors i).errCh.buf ≠ [] := by simp [hwaits.2, hreported]
      obtain ⟨x, c, hrecv⟩ := Chan.exists_recv hne
      exact absurd (.recvErr ho hrecv) (htau _)
  | closing err => exact absurd (.close ho) (htau _)
  | waiting err =>
    rw [ho] at hwaits
    rcases hreader with hr | hr | hr
    · exact absurd (.readClosed hr hwaits.2.1) (htau _)
    · exact absurd hr hwaits.1
    · exact absurd (.wait ho hr) (htau _)
  | returned err => exact absurd ho (hi err)

/-- The program is over, or waits for the kernel. -/
theorem joined_or_waits (hlive : ¬ DeadBlocked s) : Joined s ∨
    ∃ i, (s.detectors i).outer = .select ∧ (s.detectors i).reader = .readInto := by
  have hev := hs.events
  unfold EventsClosed at hev
  cases hcloser : s.closer with
  | waiting =>
    by_cases hret : DetectorsReturned s
    · exact absurd ⟨_, _, by simp, .detectorsDone hcloser hret⟩ hstuck
    · unfold DetectorsReturned at hret
      push Not at hret
      obtain ⟨i, hi⟩ := hret
      exact .inr ⟨i, detector_waits hs hctx hstuck hlive hi⟩
  | closing => exact absurd ⟨_, _, by simp, .closeEvents hcloser⟩ hstuck
  | finished =>
    rw [hcloser] at hev
    have hpc : s.fan.pc = .returned := by
      cases hpc : s.fan.pc with
      | select =>
        have hopen := (events_idle hs hstuck hpc).1
        rw [hev.2.1] at hopen
        cases hopen
      | broadcast ev k => exact absurd hpc (not_broadcast hs hstuck hlive ev k)
      | returned => rfl
    have hcoord : s.coordinator = .finished := by
      by_contra hc
      exact hstuck (moves_of_returned hs hpc hc)
    refine .inl ⟨hcloser, hcoord, fun j => ?_⟩
    rcases notifier_of_stuck hstuck j with hp | h
    · have hout := hs.outs
      unfold OutsClosed at hout
      rw [hcoord] at hout
      have hpos : 0 < s.outCloses j := by simp [hout.2 j]
      exact absurd ⟨_, _, by simp, .consumeClosed hp (buf_of_receiving hstuck hp) hpos⟩
        hstuck
    · exact h

end

/-- **Nothing is left behind.** In every reachable state before cancellation in which no goroutine
has a step of its own, the coordinator is blocked on a dead notifier, or: the detectors have sent
the images of their records, the coordinator has received an interleaving of them, every notifier
that did not fail to connect has consumed what is broadcast for them, and the program is over or a
detector waits for its next record. -/
theorem settled (kinds : Fin n → Kind) (s : State d n) (hs : Reachable kinds s)
    (hctx : s.fan.ctxDone = false) (hstuck : ¬ ∃ a s', a ≠ .environment ∧ Step kinds a s s') :
    DeadBlocked s ∨
    ((∀ i, (s.detectors i).sent = image (s.detectors i).read) ∧
      Interleaves (fun i => image (s.detectors i).read) (s.fan.received.map (·.ev)) ∧
      (∀ j, (∀ err, s.notifiers j ≠ .returned (some err)) →
        (s.fan.outputs j).consumed = Coord.broadcasts s.fan.received) ∧
      (Joined s ∨ ∃ i, (s.detectors i).outer = .select ∧ (s.detectors i).reader = .readInto)) := by
  by_cases hlive : DeadBlocked s
  · exact .inl hlive
  · have hinv := reachable_inv hs
    have hsent := sent_of_stuck hinv hctx hstuck hlive
    refine .inr ⟨hsent, ?_, fun j => ?_, joined_or_waits hinv hctx hstuck hlive⟩
    · exact (reachable_receives hs).congr fun i => (hsent i).symm
    · exact consumed_of_stuck hinv hctx hstuck (reachable_drained hs) hlive j

/-- Where a program waits that has nothing left to do. -/
structure Waiting (s : State d n) : Prop where
  ctxDone : s.fan.ctxDone = false
  select : s.fan.pc = .select
  events : s.fan.events.Idle
  detectors : ∀ i, (s.detectors i).outer = .select ∧ (s.detectors i).reader = .readInto ∧
    (s.detectors i).closed = false ∧ (s.detectors i).errCh.buf = []
  some_detector : 0 < d
  closer : s.closer = .waiting
  coordinator : s.coordinator = .running
  notifiers : ∀ j, s.notifiers j = .receiving ∧ (s.fan.outputs j).chan.buf = [] ∧
    s.outCloses j = 0

/-- There it has no step. -/
theorem Waiting.not_moves (h : Waiting s) : ¬ Moves kinds s := by
  obtain ⟨hctx, hpc, hidle, hdet, hd, hcloser, hcoord, hnot⟩ := h
  rintro ⟨a, s', ha, hstep⟩
  cases hstep with
  | cancel | kernel => exact ha rfl
  | @detector _ i t ht =>
    obtain ⟨ho, hr, hclosed, hbuf⟩ := hdet i
    cases ht with
    | done _ hc => simp [hctx] at hc
    | recvErr _ hrecv => simp [(Chan.recv_some hrecv).1] at hbuf
    | readClosed _ hc => simp [hclosed] at hc
    | setup h | setupFails _ h | start h | close h | wait h => simp [ho] at h
    | sendDone h | report h => simp [hr] at h
  | @pass _ i t ev query ht _ _ =>
    cases ht with
    | send h => simp [(hdet i).2.1] at h
  | detectorsDone _ hret =>
    obtain ⟨err, ho⟩ := hret ⟨0, hd⟩
    simp [(hdet _).1] at ho
  | closeEvents hc => simp [hcloser] at hc
  | recvDone _ hc => simp [hctx] at hc
  | recvClosed _ hrecv => simp [(Chan.recv_none hrecv).2, Chan.Idle] at hidle
  | send h | giveUp h | finish h | coordDone _ h => simp [hpc] at h
  | closeOut h | closedAll h => simp [hcoord] at h
  | @connect _ j h | @connectFails _ j _ h | @emitted _ j _ h => simp [(hnot j).1] at h
  | notifierDone _ hc => simp [hctx] at hc
  | @consume _ j _ _ _ hrecv =>
    have hbuf := (hnot j).2.1
    simp [(Chan.recv_some hrecv).1] at hbuf
  | @consumeClosed _ j _ _ hpos => simp [(hnot j).2.2] at hpos

/-- A camera is turned on, and the program waits for the next record. -/
theorem exists_waiting : ∃ s : State 1 2, Reachable mainKinds s ∧ Waiting s ∧
    s.fan.received.length = 1 := by
  have h0 := reachable_started
  have h1 := h0.tail ⟨_, .connect (j := 0) rfl⟩
  have h2 := h1.tail ⟨_, .kernel (i := 0) (.readRecord (video0 1) rfl rfl)⟩
  have h3 := h2.tail ⟨_, .pass (i := 0) (.ok .capture) (.send rfl) rfl ⟨rfl, rfl⟩⟩
  have h4 := h3.tail ⟨_, .send (j := 0) rfl rfl⟩
  have h5 := h4.tail ⟨_, .send (j := 1) rfl rfl⟩
  have h6 := h5.tail ⟨_, .finish rfl⟩
  have h7 := h6.tail ⟨_, .consume (j := 0) rfl rfl⟩
  have h8 := h7.tail ⟨_, .emitted (j := 0) rfl⟩
  have h9 := h8.tail ⟨_, .consume (j := 1) rfl rfl⟩
  exact ⟨_, h9, ⟨rfl, rfl, ⟨rfl, rfl⟩, Fin.forall_fin_one.2 ⟨rfl, rfl, rfl, rfl⟩, Nat.zero_lt_one,
    rfl, rfl, Fin.forall_fin_two.2 ⟨⟨rfl, rfl, rfl⟩, ⟨rfl, rfl, rfl⟩⟩⟩, rfl⟩

/-- Both notifiers got to know. -/
theorem settled_after_event : ∃ s : State 1 2, Reachable mainKinds s ∧
    s.fan.received.length = 1 ∧
    ∀ j, (s.fan.outputs j).consumed = Coord.broadcasts s.fan.received := by
  obtain ⟨s, hs, hwaiting, hlen⟩ := exists_waiting
  rcases settled _ s hs hwaiting.ctxDone hwaiting.not_moves with
      ⟨ev, i, hpc, -⟩ | ⟨-, -, hcons, -⟩
  · simp [hwaiting.select] at hpc
  · exact ⟨s, hs, hlen, fun j => hcons j fun err => by simp [(hwaiting.notifiers j).1]⟩

end Main
