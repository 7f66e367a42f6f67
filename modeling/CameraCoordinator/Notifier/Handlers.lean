import CameraCoordinator.Coordinator.Level
import CameraCoordinator.Notifier.Started

/-!
# The handlers by themselves

The steps of the handlers of a script notifier, apart from its `Run` (`HandlerStep`): they do not
depend on what is still to come, and they end. Commands are counted by the type and the device of
their events (`isOf`).
-/

set_option autoImplicit false

namespace Script

variable {cfg : ScriptNotifierConfig} {environ : List GoString}

/-- A handler takes a step: `Run` and the context are left alone. -/
def HandlerStep (cfg : ScriptNotifierConfig) (environ : List GoString) (s t : State) : Prop :=
  Step cfg environ s t ∧ t.ctxDone = s.ctxDone ∧ t.returned = s.returned ∧ t.received = s.received

/-- The steps that the handlers have left. -/
def handlerWork (handlers : List Handler) : Nat := (handlers.map Handler.steps).sum

/-- It does not depend on the events to come, and the handlers have fewer steps left after it. -/
theorem HandlerStep.spec {s t : State} (h : HandlerStep cfg environ s t) :
    (∀ incoming, Step cfg environ { s with incoming := incoming } { t with incoming := incoming }) ∧
    handlerWork t.handlers < handlerWork s.handlers := by
  obtain ⟨hstep, hctx, hret, hrec⟩ := h
  cases hstep with
  | cancel hc =>
    rw [hc] at hctx
    cases hctx
  | done hr _ | closed hr _ =>
    rw [hr] at hret
    cases hret
  | receive _ _ => simp at hrec
  | ignore hh hnone => exact ⟨fun _ => .ignore hh hnone, by simp [handlerWork, hh, Handler.steps]⟩
  | start hc hh hcmd =>
    exact ⟨fun _ => .start hc hh hcmd, by simp [handlerWork, hh, Handler.steps]⟩
  | refuse hc hh => exact ⟨fun _ => .refuse hc hh, by simp [handlerWork, hh, Handler.steps]⟩
  | exit hh => exact ⟨fun _ => .exit hh, by simp [handlerWork, hh, Handler.steps]⟩

/-- A handler that has yet to start its command has a step. -/
theorem exists_handlerStep {s : State} {p : Received} (h : .starting p ∈ s.handlers) :
    ∃ t, HandlerStep cfg environ s t := by
  obtain ⟨l, r, hh⟩ := List.append_of_mem h
  cases hctx : s.ctxDone with
  | true => exact ⟨_, .refuse hctx hh, rfl, rfl, rfl⟩
  | false =>
    cases hcmd : command cfg environ p.1 with
    | none => exact ⟨_, .ignore hh hcmd, rfl, rfl, rfl⟩
    | some cmd => exact ⟨_, .start hctx hh hcmd, rfl, rfl, rfl⟩

/-- Handlers that have started their commands have none pending. -/
theorem pending_eq_nil {handlers : List Handler} (h : ∀ p, .starting p ∉ handlers) :
    pending cfg environ handlers = [] := by
  refine List.filterMap_eq_nil_iff.2 fun hd hmem => ?_
  cases hd with
  | starting p => exact absurd hmem (h p)
  | running p cmd => rfl

/-- The command is of an event of the type on the device. -/
def isOf (type : CameraEventType) (v : GoString) (c : Started) : Bool :=
  c.1.1.type == type && c.1.1.videoDevice == v

/-- The commands of events are as many of a type as the events. -/
theorem countP_commands (type : CameraEventType) (v : GoString) (events : List CameraEvent)
    (cmd : CameraEvent → Cmd) :
    (events.zipIdx.map fun p => (p, cmd p.1)).countP (isOf type v) =
      (Coord.typesOf v events).count type := by
  have hevents : events.zipIdx.map Prod.fst = events := List.zipIdx_map_fst _ _
  have hcount : (events.zipIdx.map Prod.fst).countP
      (fun e => e.type == type && e.videoDevice == v) = (Coord.typesOf v events).count type := by
    rw [hevents, Coord.typesOf, List.count, List.countP_map, List.countP_filter]
    rfl
  rw [← hcount, List.countP_map, List.countP_map]
  rfl

/-- Commands that some of the events have are at most as many of a type as the events. -/
theorem countP_commandsFor_le (type : CameraEventType) (v : GoString) (events : List CameraEvent) :
    (commandsFor cfg environ events).countP (isOf type v) ≤
      (Coord.typesOf v events).count type := by
  rw [← countP_commands type v events (eventCommand cfg environ), commandsFor, List.countP_map,
    List.countP_filterMap]
  refine List.countP_mono_left fun p _ hp => ?_
  cases hs : startedFor cfg environ p with
  | none => simp [hs] at hp
  | some c =>
    obtain ⟨cmd, -, rfl⟩ := Option.map_eq_some_iff.1 hs
    rw [hs] at hp
    exact hp

end Script
