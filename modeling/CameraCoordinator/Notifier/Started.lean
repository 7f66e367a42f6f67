import CameraCoordinator.Notifier.Script
import Mathlib.Data.List.Perm.Subperm

/-!
# What is started under cancellation

With a cancellation at any moment, the commands that were started are some of those of the events,
each at most once, in any order (`AtMostOnce`); and any some, in any order, are possible.
`orders_iff` says both, for runs with and without a cancellation. After it nothing is started, and
the handlers return.
-/

set_option autoImplicit false

namespace Script

variable {cfg : ScriptNotifierConfig} {environ : List GoString}

/-! ## At most once -/

/-- What was started and what is pending are commands of events received. -/
def AtMostOnce (cfg : ScriptNotifierConfig) (environ : List GoString) (s : State) : Prop :=
  (s.commands ++ pending cfg environ s.handlers).Subperm (commandsFor cfg environ s.received)

theorem AtMostOnce.init (events : List CameraEvent) : AtMostOnce cfg environ (init events) :=
  .refl _

/-- A handler that is gone starts nothing. -/
theorem pending_sublist (l r : List Handler) (h : Handler) :
    (pending cfg environ (l ++ r)).Sublist (pending cfg environ (l ++ h :: r)) :=
  ((List.sublist_cons_self h r).append_left l).filterMap _

theorem AtMostOnce.drop {s : State} {l r : List Handler} {h : Handler}
    (hs : AtMostOnce cfg environ s) (hh : s.handlers = l ++ h :: r) :
    (s.commands ++ pending cfg environ (l ++ r)).Subperm (commandsFor cfg environ s.received) := by
  unfold AtMostOnce at hs
  rw [hh] at hs
  exact ((pending_sublist l r h).append_left s.commands).subperm.trans hs

theorem Step.atMostOnce {s s' : State} (h : Step cfg environ s s')
    (hs : AtMostOnce cfg environ s) : AtMostOnce cfg environ s' := by
  cases h with
  | cancel _ | done _ _ | closed _ _ => exact hs
  | @receive event rest _ _ =>
    unfold AtMostOnce at *
    dsimp only
    rw [pending_append, pending_starting, commandsFor_snoc, ← List.append_assoc]
    simpa [pending] using (List.subperm_append_right _).2 hs
  | ignore hh _ | refuse _ hh | exit hh => exact hs.drop hh
  | @start l r p cmd _ hh hcmd =>
    unfold AtMostOnce at *
    rw [hh, pending_start hcmd] at hs
    have hmove : (pending cfg environ l ++ (p, cmd) :: pending cfg environ r).Perm
        ((p, cmd) :: (pending cfg environ l ++ pending cfg environ r)) := List.perm_middle
    dsimp only
    rw [pending_running, pending_append, List.append_assoc]
    exact (hmove.symm.append_left s.commands).subperm.trans hs

theorem reachable_atMostOnce {events : List CameraEvent} {s : State}
    (h : Reachable cfg environ events s) : AtMostOnce cfg environ s :=
  h.invariant (AtMostOnce.init events) Step.atMostOnce

/-- The commands of the events received are of the events. -/
theorem commandsFor_sublist {events received incoming : List CameraEvent}
    (h : received ++ incoming = events) :
    (commandsFor cfg environ received).Sublist (commandsFor cfg environ events) := by
  unfold commandsFor
  rw [← h, List.zipIdx_append, List.filterMap_append]
  exact List.sublist_append_left _ _

theorem reachable_subperm {events : List CameraEvent} {s : State}
    (h : Reachable cfg environ events s) :
    s.commands.Subperm (commandsFor cfg environ events) := by
  have hcommands : s.commands.Subperm (commandsFor cfg environ s.received) :=
    (List.sublist_append_left _ _).subperm.trans (reachable_atMostOnce h)
  exact hcommands.trans (commandsFor_sublist (reachable_inv h).delivered).subperm

/-- An event has one command. -/
theorem nodup_commandsFor (events : List CameraEvent) :
    ((commandsFor cfg environ events).map (·.1.2)).Nodup := by
  have hsub : ((commandsFor cfg environ events).map (·.1.2)).Sublist
      (events.zipIdx.map Prod.snd) := by
    unfold commandsFor
    induction events.zipIdx with
    | nil => exact .slnil
    | cons p ps ih =>
      cases hp : startedFor cfg environ p with
      | none =>
        rw [List.filterMap_cons_none hp]
        exact ih.cons _
      | some c =>
        obtain ⟨cmd, -, rfl⟩ := Option.map_eq_some_iff.1 hp
        rw [List.filterMap_cons_some hp]
        exact ih.cons_cons _
  refine hsub.nodup ?_
  rw [List.zipIdx_map_snd]
  exact List.nodup_range'

/-! ## Any of them -/

/-- Cancelled handlers return. -/
theorem refuse_all (s : State) (hctx : s.ctxDone = true) (ps : List Received) :
    Relation.ReflTransGen (Step cfg environ) { s with handlers := ps.map .starting }
      { s with handlers := [] } := by
  induction ps with
  | nil => exact .refl
  | cons p ps ih =>
    have hstep : Step cfg environ { s with handlers := (p :: ps).map .starting } _ :=
      .refuse (l := []) hctx rfl
    exact .head hstep ih

/-- Some of the commands, in any order, and then the cancellation. -/
theorem every_suborder {events : List CameraEvent} {order : List Started}
    (horder : order.Subperm (commandsFor cfg environ events)) :
    ∃ s, Reachable cfg environ events s ∧ s.ctxDone = true ∧ Finished s ∧ s.commands = order := by
  obtain ⟨l, hl, hsub⟩ := horder
  obtain ⟨rest, hrest⟩ := hsub.exists_perm_append
  have hperm : (order ++ rest).Perm (commandsFor cfg environ events) :=
    (hrest.trans (hl.append_right rest)).symm
  have hreceive : Relation.ReflTransGen (Step cfg environ) (init events) _ :=
    receive_all (init events) rfl events
  obtain ⟨qs, -, hstart⟩ := start_some { init events with incoming := [], received := events }
    rfl hperm
  have hcancel := (hreceive.trans hstart).tail (.cancel rfl)
  have hrefuse : Relation.ReflTransGen (Step cfg environ) _ _ := refuse_all { init events with
    incoming := [], received := events, commands := order, ctxDone := true } rfl qs
  exact ⟨_, (hcancel.trans hrefuse).tail (.closed rfl rfl), rfl, ⟨rfl, rfl⟩, rfl⟩

/-- **Which commands are started, and in which orders.** For every configuration and events: what
the finished runs without a cancellation have started are exactly the orders of the commands of the
events, and what those with one have started are exactly the orders of some of them. -/
theorem orders_iff (cfg : ScriptNotifierConfig) (environ : List GoString)
    (events : List CameraEvent) (order : List Started) :
    ((∃ s, Reachable cfg environ events s ∧ s.ctxDone = false ∧ Finished s ∧ s.commands = order) ↔
      order.Perm (commandsFor cfg environ events)) ∧
    ((∃ s, Reachable cfg environ events s ∧ s.ctxDone = true ∧ Finished s ∧ s.commands = order) ↔
      order.Subperm (commandsFor cfg environ events)) := by
  refine ⟨⟨?_, every_order cfg environ events order⟩, ⟨?_, every_suborder⟩⟩
  · rintro ⟨s, hs, hctx, hfin, rfl⟩
    exact ((reachable_inv hs).perm_of_finished hctx hfin).2
  · rintro ⟨s, hs, -, -, rfl⟩
    exact reachable_subperm hs

/-! ## After a cancellation -/

theorem Step.cancelled {s s' : State} (h : Step cfg environ s s') (hctx : s.ctxDone = true) :
    s'.ctxDone = true ∧ s'.commands = s.commands ∧ s'.remaining < s.remaining := by
  cases h with
  | cancel h | start h _ _ =>
    rw [hctx] at h
    cases h
  | done hr _ => exact ⟨hctx, rfl, by simp [State.remaining, hr]⟩
  | receive hr hin =>
    refine ⟨hctx, rfl, ?_⟩
    simp only [State.remaining, hin, List.length_cons, List.map_append, List.map_singleton,
      List.sum_append, List.sum_singleton, Handler.steps]
    omega
  | closed hr hin => exact ⟨hctx, rfl, by simp [State.remaining, hr, hin]⟩
  | ignore hh _ | refuse _ hh | exit hh =>
    exact ⟨hctx, rfl, by simp [State.remaining, hh, Handler.steps]⟩

theorem exists_step_cancelled {s : State} (hctx : s.ctxDone = true) (hfin : ¬ Finished s) :
    ∃ s', Step cfg environ s s' := by
  cases hh : s.handlers with
  | nil =>
    have hr : s.returned = false := by
      by_contra h
      exact hfin ⟨by simpa using h, hh⟩
    exact ⟨_, .done hr hctx⟩
  | cons h r =>
    cases h with
    | starting p => exact ⟨_, .refuse (l := []) hctx hh⟩
    | running p cmd => exact ⟨_, .exit (l := []) hh⟩

/-- **Nothing is started twice, and nothing after a cancellation.** In every reachable state the
commands started are some of those of the events received, no two of them of one event; and from a
cancelled one, in every run nothing more is started, and it ends, with all handlers returned. -/
theorem at_most_once (cfg : ScriptNotifierConfig) (environ : List GoString)
    (events : List CameraEvent) (s : State) (hs : Reachable cfg environ events s) :
    s.received <+: events ∧
    s.commands.Subperm (commandsFor cfg environ s.received) ∧
    (s.commands.map (·.1.2)).Nodup ∧
    (s.ctxDone = true → ∀ s', Relation.ReflTransGen (Step cfg environ) s s' →
      s'.commands = s.commands ∧ (Finished s' ∨ ∃ s'', Step cfg environ s' s'') ∧
      ∀ s'', Step cfg environ s' s'' → s''.remaining < s'.remaining) := by
  have hsub : s.commands.Subperm (commandsFor cfg environ s.received) :=
    (List.sublist_append_left _ _).subperm.trans (reachable_atMostOnce hs)
  refine ⟨⟨_, (reachable_inv hs).delivered⟩, hsub, ?_, fun hctx s' hrun => ?_⟩
  · obtain ⟨l, hperm, hl⟩ := hsub
    have hnodup : (l.map (·.1.2)).Nodup := (hl.map _).nodup (nodup_commandsFor s.received)
    exact (hperm.map _).nodup_iff.1 hnodup
  · have hkept : s'.ctxDone = true ∧ s'.commands = s.commands := by
      refine hrun.invariant (P := fun t => t.ctxDone = true ∧ t.commands = s.commands)
        ⟨hctx, rfl⟩ ?_
      intro u u' hstep hu
      obtain ⟨hctx', hcommands, -⟩ := hstep.cancelled hu.1
      exact ⟨hctx', hcommands.trans hu.2⟩
    refine ⟨hkept.2, ?_, fun s'' hstep => (hstep.cancelled hkept.1).2.2⟩
    by_cases hfin : Finished s'
    · exact .inl hfin
    · exact .inr (exists_step_cancelled hkept.1 hfin)

/-- The context is done while the script for the Off is still to be started. -/
theorem off_refused : ∃ s, Reachable bothScripts []
      [.test cameraEventRecordingOn, .test cameraEventRecordingOff] s ∧ s.ctxDone = true ∧
    s.handlers.length = 2 ∧ ∀ s', Relation.ReflTransGen (Step bothScripts []) s s' →
      s'.commands.map (·.2.name) = [goString "/etc/on.sh"] := by
  have h0 : Reachable bothScripts []
    [.test cameraEventRecordingOn, .test cameraEventRecordingOff] _ := .refl
  have h1 := h0.tail (.receive rfl rfl)
  have h2 := h1.tail (.start (l := []) rfl rfl rfl)
  have h3 := h2.tail (.receive rfl rfl)
  have h4 := h3.tail (.cancel rfl)
  refine ⟨_, h4, rfl, rfl, fun s' hrun => ?_⟩
  rw [((at_most_once _ _ _ _ h4).2.2.2 rfl s' hrun).1]
  decide

end Script
