import CameraCoordinator.Event
import CameraCoordinator.Lib.Fan
import CameraCoordinator.Lib.Filepath
import CameraCoordinator.Lib.Runs
import Mathlib.Algebra.Ring.Nat

/-!
# The script notifier

`ScriptNotifier` (`notifier_script.go`): the receive loop of `Run` and the goroutines that it
starts, one for each event, as a step relation. A handler starts at most one command, and none once
the context is done. That a command cannot be executed, or how it ends, is logged only.

The handlers run in the background and do not wait for each other. What was started and what the
handlers have yet to start are together the commands of the events received (`Inv.perm`), and they
may be started in any order (`every_order`). A device's commands are started in the order of its
events if no event of it is received while a handler has yet to start the command of an earlier one
(`Ordered`). `scripts_started` puts the two together.
-/

set_option autoImplicit false

namespace Script

open Filepath (join)

/-! ## Commands -/

structure ScriptNotifierConfig where
  onScript : GoString
  offScript : GoString
  baseDir : GoString
  deriving DecidableEq, Repr

/-- An `exec.Cmd`: the name it was created with and its environment. -/
structure Cmd where
  name : GoString
  env : List GoString
  deriving DecidableEq, Repr

/-- A script path that starts with `./` is resolved relative to the base directory. -/
def resolve (cfg : ScriptNotifierConfig) (script : GoString) : GoString :=
  if (goString "./").isPrefixOf script ∧ cfg.baseDir ≠ [] then join [cfg.baseDir, script]
  else script

/-- The command that runs a script for an event. -/
def scriptCommand (cfg : ScriptNotifierConfig) (environ : List GoString) (script : GoString)
    (event : CameraEvent) : Cmd where
  name := resolve cfg script
  env := environ ++ [goString "CAMERA_COORDINATOR_DEVICE=" ++ event.videoDevice]

/-- The script for events of a type: none for an unknown type. -/
def scriptFor (cfg : ScriptNotifierConfig) (type : CameraEventType) : Option GoString :=
  if type = cameraEventRecordingOn then some cfg.onScript
  else if type = cameraEventRecordingOff then some cfg.offScript
  else none

/-- `handle` up to its `cmd.Run()`, if it gets there. -/
def command (cfg : ScriptNotifierConfig) (environ : List GoString) (event : CameraEvent) :
    Option Cmd :=
  match scriptFor cfg event.type with
  | none => none
  | some script => if script = [] then none else some (scriptCommand cfg environ script event)

/-- The value of a variable in the environment of a command, where the last of its entries counts.
-/
def getenv (env : List GoString) (key : GoString) : Option GoString :=
  (env.reverse.find? fun entry => (key ++ goString "=").isPrefixOf entry).map fun entry =>
    entry.drop (key.length + 1)

/-- A command has its device in its environment. -/
theorem getenv_scriptCommand (cfg : ScriptNotifierConfig) (environ : List GoString)
    (script : GoString) (event : CameraEvent) :
    getenv (scriptCommand cfg environ script event).env (goString "CAMERA_COORDINATOR_DEVICE") =
      some event.videoDevice := by
  have hkey : goString "CAMERA_COORDINATOR_DEVICE=" =
      goString "CAMERA_COORDINATOR_DEVICE" ++ goString "=" := by decide
  have hlength : (goString "CAMERA_COORDINATOR_DEVICE").length + 1 =
      (goString "CAMERA_COORDINATOR_DEVICE=").length := by decide
  unfold getenv scriptCommand
  dsimp only
  rw [← hkey, hlength, List.reverse_append, List.reverse_singleton, List.singleton_append,
    List.find?_cons_of_pos (by simp), Option.map_some, List.drop_left]

/-- A `./` script is the file of that name in the base directory. -/
theorem resolve_dot {cfg : ScriptNotifierConfig} (hbase : Filepath.elements cfg.baseDir ≠ [])
    {name : GoString} (hname : Filepath.IsName name) : resolve cfg (goString "./" ++ name) =
      Filepath.clean cfg.baseDir ++ Filepath.slash :: name := by
  have hne : cfg.baseDir ≠ [] := by
    intro h
    rw [h] at hbase
    exact hbase (by decide)
  have hstart : (goString "./").isPrefixOf (goString "./" ++ name) = true := by simp
  have hdot : goString "./" ++ name = Filepath.dot :: Filepath.slash :: name := rfl
  unfold resolve
  rw [if_pos ⟨hstart, hne⟩, hdot, Filepath.join_dot hne, Filepath.join_name hbase hname]

/-- What the name of the command for a script is to be: the script itself, or if it starts with `./`
and there is a base directory, its path from there, which for a file is that of the file in the
directory. -/
structure RunsAs (cfg : ScriptNotifierConfig) (script name : GoString) : Prop where
  plain : cfg.baseDir = [] ∨ ¬ goString "./" <+: script → name = script
  joined : cfg.baseDir ≠ [] → goString "./" <+: script →
    name = Filepath.clean (cfg.baseDir ++ Filepath.slash :: script)
  file : Filepath.elements cfg.baseDir ≠ [] → ∀ file, Filepath.IsName file →
    script = goString "./" ++ file → name = Filepath.clean cfg.baseDir ++ Filepath.slash :: file

theorem runsAs_resolve (cfg : ScriptNotifierConfig) (script : GoString) :
    RunsAs cfg script (resolve cfg script) where
  plain := by
    intro h
    unfold resolve
    rw [if_neg]
    rintro ⟨hdot, hne⟩
    rcases h with h | h
    · exact hne h
    · exact h (List.isPrefixOf_iff_prefix.1 hdot)
  joined := by
    intro hne hdot
    unfold resolve
    rw [if_pos ⟨List.isPrefixOf_iff_prefix.2 hdot, hne⟩, Filepath.join_pair hne]
  file := by
    rintro hbase file hfile rfl
    exact resolve_dot hbase hfile

/-! ## States and steps -/

/-- An event with its position among those received. -/
abbrev Received := CameraEvent × Nat

/-- A handler goroutine: on its way to `cmd.Run()`, or in it. -/
inductive Handler
  | starting (p : Received)
  | running (p : Received) (cmd : Cmd)
  deriving DecidableEq

/-- A command that was started, with the event of its handler. -/
abbrev Started := Received × Cmd

structure State where
  ctxDone : Bool
  /-- The events still to be received, after which the channel is closed. -/
  incoming : List CameraEvent
  /-- `Run` has returned. -/
  returned : Bool
  received : List CameraEvent
  /-- The handlers that have not returned. -/
  handlers : List Handler
  commands : List Started

/-- `Run` is called. -/
def init (events : List CameraEvent) : State where
  ctxDone := false
  incoming := events
  returned := false
  received := []
  handlers := []
  commands := []

inductive Step (cfg : ScriptNotifierConfig) (environ : List GoString) : State → State → Prop
  | cancel {s : State} : s.ctxDone = false → Step cfg environ s { s with ctxDone := true }
  -- `Run`
  | done {s : State} : s.returned = false → s.ctxDone = true →
      Step cfg environ s { s with returned := true }
  | receive {s : State} {event : CameraEvent} {rest : List CameraEvent} : s.returned = false →
      s.incoming = event :: rest → Step cfg environ s { s with
        incoming := rest
        received := s.received ++ [event]
        handlers := s.handlers ++ [.starting (event, s.received.length)] }
  | closed {s : State} : s.returned = false → s.incoming = [] →
      Step cfg environ s { s with returned := true }
  -- the handlers
  | ignore {s : State} {l r : List Handler} {p : Received} : s.handlers = l ++ .starting p :: r →
      command cfg environ p.1 = none → Step cfg environ s { s with handlers := l ++ r }
  | start {s : State} {l r : List Handler} {p : Received} {cmd : Cmd} : s.ctxDone = false →
      s.handlers = l ++ .starting p :: r → command cfg environ p.1 = some cmd →
      Step cfg environ s { s with
        handlers := l ++ .running p cmd :: r
        commands := s.commands ++ [(p, cmd)] }
  | refuse {s : State} {l r : List Handler} {p : Received} : s.ctxDone = true →
      s.handlers = l ++ .starting p :: r → Step cfg environ s { s with handlers := l ++ r }
  | exit {s : State} {l r : List Handler} {p : Received} {cmd : Cmd} :
      s.handlers = l ++ .running p cmd :: r → Step cfg environ s { s with handlers := l ++ r }

/-- The states of the runs over the events. -/
def Reachable (cfg : ScriptNotifierConfig) (environ : List GoString) (events : List CameraEvent)
    (s : State) : Prop :=
  Relation.ReflTransGen (Step cfg environ) (init events) s

/-- `Run` and all handlers have returned. -/
def Finished (s : State) : Prop := s.returned = true ∧ s.handlers = []

/-! ## What is started and what is pending -/

section
variable {cfg : ScriptNotifierConfig} {environ : List GoString}

/-- The command of an event. -/
def startedFor (cfg : ScriptNotifierConfig) (environ : List GoString) (p : Received) :
    Option Started :=
  (command cfg environ p.1).map (p, ·)

/-- The commands of events, in their order. -/
def commandsFor (cfg : ScriptNotifierConfig) (environ : List GoString) (events : List CameraEvent) :
    List Started :=
  events.zipIdx.filterMap (startedFor cfg environ)

/-- The command that a handler has yet to start. -/
def Handler.pending (cfg : ScriptNotifierConfig) (environ : List GoString) :
    Handler → Option Started
  | .starting p => startedFor cfg environ p
  | .running _ _ => none

/-- The commands that handlers have yet to start. -/
def pending (cfg : ScriptNotifierConfig) (environ : List GoString) (handlers : List Handler) :
    List Started :=
  handlers.filterMap (Handler.pending cfg environ)

theorem commandsFor_snoc (events : List CameraEvent) (event : CameraEvent) :
    commandsFor cfg environ (events ++ [event]) = commandsFor cfg environ events ++
      (startedFor cfg environ (event, events.length)).toList := by
  simp only [commandsFor, zipIdx_snoc, List.filterMap_append, List.filterMap_cons,
    List.filterMap_nil]
  split <;> rename_i h <;> simp [h]

theorem pending_append (l r : List Handler) : pending cfg environ (l ++ r) =
    pending cfg environ l ++ pending cfg environ r := List.filterMap_append

theorem pending_starting (p : Received) (r : List Handler) :
    pending cfg environ (.starting p :: r) =
      (startedFor cfg environ p).toList ++ pending cfg environ r := by
  cases h : startedFor cfg environ p <;> simp [pending, Handler.pending, h]

/-- A handler that ignores its event has nothing pending. -/
theorem pending_ignore {p : Received} (hnone : command cfg environ p.1 = none)
    (l r : List Handler) :
    pending cfg environ (l ++ .starting p :: r) = pending cfg environ (l ++ r) := by
  have hstarted : startedFor cfg environ p = none := by simp [startedFor, hnone]
  rw [pending_append, pending_starting, hstarted, pending_append]
  rfl

/-- A handler that starts its command had it pending. -/
theorem pending_start {p : Received} {cmd : Cmd} (hcmd : command cfg environ p.1 = some cmd)
    (l r : List Handler) : pending cfg environ (l ++ .starting p :: r) =
      pending cfg environ l ++ (p, cmd) :: pending cfg environ r := by
  have hstarted : startedFor cfg environ p = some (p, cmd) := by simp [startedFor, hcmd]
  rw [pending_append, pending_starting, hstarted]
  rfl

/-- A handler that has started its command has nothing pending. -/
theorem pending_running (p : Received) (cmd : Cmd) (l r : List Handler) :
    pending cfg environ (l ++ .running p cmd :: r) = pending cfg environ (l ++ r) := by
  rw [pending_append, pending_append]
  rfl

/-- Every event received is accounted for: its command was started, or a handler has yet to start
it. -/
structure Inv (cfg : ScriptNotifierConfig) (environ : List GoString) (events : List CameraEvent)
    (s : State) : Prop where
  delivered : s.received ++ s.incoming = events
  returned : s.returned = true → s.ctxDone = true ∨ s.incoming = []
  perm : s.ctxDone = false → (s.commands ++ pending cfg environ s.handlers).Perm
    (commandsFor cfg environ s.received)

theorem init_inv (events : List CameraEvent) : Inv cfg environ events (init events) where
  delivered := rfl
  returned := fun h => by cases h
  perm := fun _ => .refl _

/-- **Every step keeps the account.** -/
theorem Step.inv {events : List CameraEvent} {s s' : State} (h : Step cfg environ s s')
    (hs : Inv cfg environ events s) : Inv cfg environ events s' := by
  obtain ⟨hdel, hret, hperm⟩ := hs
  cases h with
  | cancel _ => exact ⟨hdel, fun _ => .inl rfl, fun h => by cases h⟩
  | done _ hctx => exact ⟨hdel, fun _ => .inl hctx, hperm⟩
  | @receive event rest hr hin =>
    refine ⟨by simp [← hdel, hin], fun h => ?_, fun hctx => ?_⟩
    · rw [hr] at h
      cases h
    · dsimp only
      rw [pending_append, pending_starting, commandsFor_snoc, ← List.append_assoc]
      simpa [pending] using (hperm hctx).append_right _
  | closed _ hin => exact ⟨hdel, fun _ => .inr hin, hperm⟩
  | @ignore l r p hh hnone =>
    refine ⟨hdel, hret, fun hctx => ?_⟩
    have hp := hperm hctx
    rw [hh, pending_ignore hnone] at hp
    exact hp
  | @start l r p cmd _ hh hcmd =>
    refine ⟨hdel, hret, fun hctx => ?_⟩
    have hp := hperm hctx
    rw [hh, pending_start hcmd] at hp
    have hmove : (pending cfg environ l ++ (p, cmd) :: pending cfg environ r).Perm
        ((p, cmd) :: (pending cfg environ l ++ pending cfg environ r)) := List.perm_middle
    dsimp only
    rw [pending_running, pending_append, List.append_assoc]
    exact (hmove.symm.append_left s.commands).trans hp
  | refuse hctx hh => exact ⟨hdel, hret, fun h => by rw [hctx] at h; cases h⟩
  | @exit l r p cmd hh =>
    refine ⟨hdel, hret, fun hctx => ?_⟩
    have hp := hperm hctx
    rw [hh, pending_running] at hp
    exact hp

/-- **Every reachable state accounts for its events.** -/
theorem reachable_inv {events : List CameraEvent} {s : State}
    (h : Reachable cfg environ events s) : Inv cfg environ events s :=
  h.invariant (init_inv events) Step.inv

/-- Once all have returned, the commands are those of all events. -/
theorem Inv.perm_of_finished {events : List CameraEvent} {s : State}
    (hs : Inv cfg environ events s) (hctx : s.ctxDone = false) (hfin : Finished s) :
    s.received = events ∧ s.commands.Perm (commandsFor cfg environ events) := by
  have hin : s.incoming = [] := by
    rcases hs.returned hfin.1 with h | h
    · rw [hctx] at h
      cases h
    · exact h
  have hrec : s.received = events := by simpa [hin] using hs.delivered
  have hp := hs.perm hctx
  rw [hfin.2, hrec] at hp
  exact ⟨hrec, by simpa [pending] using hp⟩

/-! ## Order -/

/-- What is of a device. -/
def ofDevice (v : GoString) (commands : List Started) : List Started :=
  commands.filter fun c => c.1.1.videoDevice = v

theorem ofDevice_append (v : GoString) (l r : List Started) :
    ofDevice v (l ++ r) = ofDevice v l ++ ofDevice v r := List.filter_append l r

/-- The handler has yet to start the command of an event of the device. -/
def Handler.startsFor (v : GoString) : Handler → Bool
  | .starting p => p.1.videoDevice = v
  | .running _ _ => false

/-- `Run` receives no event of the device while a handler has yet to start the command of an earlier
one. -/
def Calm (v : GoString) (s s' : State) : Prop :=
  ∀ event, s'.received = s.received ++ [event] → event.videoDevice = v →
    ∀ h ∈ s.handlers, h.startsFor v = false

/-- What was started for the device and what is pending are its commands, in order, and at most one
is pending. -/
structure Ordered (cfg : ScriptNotifierConfig) (environ : List GoString) (v : GoString)
    (s : State) : Prop where
  order : s.ctxDone = false → ofDevice v (s.commands ++ pending cfg environ s.handlers) =
    ofDevice v (commandsFor cfg environ s.received)
  one : (s.handlers.filter (Handler.startsFor v)).length ≤ 1

/-- A handler that starts nothing for the device has nothing pending for it. -/
theorem ofDevice_pending_eq_nil {v : GoString} {l : List Handler}
    (h : l.filter (Handler.startsFor v) = []) : ofDevice v (pending cfg environ l) = [] := by
  rw [List.filter_eq_nil_iff] at h
  refine List.filter_eq_nil_iff.2 fun c hc => ?_
  obtain ⟨hd, hmem, hp⟩ := List.mem_filterMap.1 hc
  cases hd with
  | running p cmd => cases hp
  | starting p =>
    obtain ⟨cmd, -, rfl⟩ := Option.map_eq_some_iff.1 hp
    exact h _ hmem

theorem Ordered.init (v : GoString) (events : List CameraEvent) :
    Ordered cfg environ v (init events) :=
  ⟨fun _ => rfl, Nat.zero_le 1⟩

/-- A handler that is gone starts nothing. -/
theorem startsFor_le {v : GoString} {l r : List Handler} {h : Handler}
    (hone : ((l ++ h :: r).filter (Handler.startsFor v)).length ≤ 1) :
    ((l ++ r).filter (Handler.startsFor v)).length ≤ 1 := by
  have hsub : (l ++ r).Sublist (l ++ h :: r) := (List.sublist_cons_self h r).append_left l
  exact (hsub.filter _).length_le.trans hone

/-- If one of them starts something for the device, none before it does. -/
theorem filter_eq_nil_of_one {v : GoString} {l r : List Handler} {p : Received}
    (hone : ((l ++ .starting p :: r).filter (Handler.startsFor v)).length ≤ 1)
    (hv : p.1.videoDevice = v) : l.filter (Handler.startsFor v) = [] := by
  have hp : Handler.startsFor v (.starting p) = true := decide_eq_true hv
  rw [List.filter_append, List.filter_cons_of_pos hp, List.length_append, List.length_cons] at hone
  exact List.length_eq_zero_iff.1 (by omega)

/-- **Every calm step keeps the order.** -/
theorem Ordered.step {v : GoString} {s s' : State} (hs : Ordered cfg environ v s)
    (h : Step cfg environ s s') (hcalm : Calm v s s') : Ordered cfg environ v s' := by
  obtain ⟨horder, hone⟩ := hs
  cases h with
  | cancel _ => exact ⟨fun h => (by cases h), hone⟩
  | done _ _ => exact ⟨horder, hone⟩
  | @receive event rest _ _ =>
    refine ⟨fun hctx => ?_, ?_⟩
    · have hold := horder hctx
      dsimp only
      rw [pending_append, pending_starting, commandsFor_snoc, ← List.append_assoc,
        ofDevice_append, hold, ← ofDevice_append]
      simp [pending]
    · by_cases hv : event.videoDevice = v
      · have hnone : s.handlers.filter (Handler.startsFor v) = [] :=
          List.filter_eq_nil_iff.2 fun h hmem => by simp [hcalm event rfl hv h hmem]
        simp [hnone, Handler.startsFor, hv]
      · simpa [Handler.startsFor, hv] using hone
  | closed _ _ => exact ⟨horder, hone⟩
  | @ignore l r p hh hnone =>
    rw [hh] at horder hone
    refine ⟨fun hctx => ?_, startsFor_le hone⟩
    have hold := horder hctx
    rw [pending_ignore hnone] at hold
    exact hold
  | @start l r p cmd _ hh hcmd =>
    rw [hh] at horder hone
    refine ⟨fun hctx => ?_, by simpa [Handler.startsFor] using startsFor_le hone⟩
    have hold := horder hctx
    rw [pending_start hcmd, List.append_cons] at hold
    dsimp only
    rw [pending_running, pending_append, ← hold]
    simp only [ofDevice_append, List.append_assoc]
    by_cases hv : p.1.videoDevice = v
    · -- nothing else is pending for the device
      rw [ofDevice_pending_eq_nil (filter_eq_nil_of_one hone hv)]
      rfl
    · have hx : ofDevice v [(p, cmd)] = [] := by simp [ofDevice, hv]
      rw [hx]
      rfl
  | refuse hctx hh =>
    rw [hh] at hone
    refine ⟨fun h => ?_, startsFor_le hone⟩
    rw [hctx] at h
    cases h
  | @exit l r p cmd hh =>
    rw [hh] at horder hone
    refine ⟨fun hctx => ?_, startsFor_le hone⟩
    have hold := horder hctx
    rw [pending_running] at hold
    exact hold

/-! ## Every run ends -/

/-- The steps that a handler may take. -/
def Handler.steps : Handler → Nat
  | .starting _ => 2
  | .running _ _ => 1

/-- The steps that may follow without a cancellation. -/
def State.remaining (s : State) : Nat :=
  3 * s.incoming.length + (s.handlers.map Handler.steps).sum + if s.returned then 0 else 1

theorem Step.remaining_lt {s s' : State} (h : Step cfg environ s s') (hctx : s'.ctxDone = false) :
    s'.remaining < s.remaining := by
  cases h with
  | cancel _ => cases hctx
  | done _ h | refuse h _ =>
    rw [h] at hctx
    cases hctx
  | receive hr hin =>
    simp [State.remaining, hr, hin, Handler.steps]
    omega
  | closed hr hin => simp [State.remaining, hr, hin]
  | ignore hh _ | start _ hh _ | exit hh => simp [State.remaining, hh, Handler.steps]

/-- Until all have returned there is something to do. -/
theorem exists_step {s : State} (hctx : s.ctxDone = false) (hfin : ¬ Finished s) :
    ∃ s', Step cfg environ s s' ∧ s'.ctxDone = false := by
  cases hh : s.handlers with
  | nil =>
    have hr : s.returned = false := by
      by_contra h
      exact hfin ⟨by simpa using h, hh⟩
    cases hin : s.incoming with
    | nil => exact ⟨_, .closed hr hin, hctx⟩
    | cons event rest => exact ⟨_, .receive hr hin, hctx⟩
  | cons h r =>
    cases h with
    | running p cmd => exact ⟨_, .exit (l := []) hh, hctx⟩
    | starting p =>
      cases hcmd : command cfg environ p.1 with
      | none => exact ⟨_, .ignore (l := []) hh hcmd, hctx⟩
      | some cmd => exact ⟨_, .start (l := []) hctx hh hcmd, hctx⟩

/-! ## The scripts -/

/-- The states of the runs that are calm for a device. -/
def CalmRun (cfg : ScriptNotifierConfig) (environ : List GoString) (events : List CameraEvent)
    (v : GoString) (s : State) : Prop :=
  Relation.ReflTransGen (fun s s' => Step cfg environ s s' ∧ Calm v s s') (init events) s

theorem CalmRun.reachable {events : List CameraEvent} {v : GoString} {s : State}
    (h : CalmRun cfg environ events v s) : Reachable cfg environ events s :=
  Relation.ReflTransGen.mono (fun _ _ hstep => hstep.1) _ _ h

/-- **Calm runs keep the order.** -/
theorem CalmRun.ordered {events : List CameraEvent} {v : GoString} {s : State}
    (h : CalmRun cfg environ events v s) : Ordered cfg environ v s :=
  h.invariant (Ordered.init v events) fun hstep hs => hs.step hstep.1 hstep.2

/-- The command of an On or Off, if both scripts are set. -/
def eventCommand (cfg : ScriptNotifierConfig) (environ : List GoString) (event : CameraEvent) :
    Cmd :=
  scriptCommand cfg environ
    (if event.type = cameraEventRecordingOn then cfg.onScript else cfg.offScript) event

theorem command_eq (hon : cfg.onScript ≠ []) (hoff : cfg.offScript ≠ []) {event : CameraEvent}
    (he : event.type = cameraEventRecordingOn ∨ event.type = cameraEventRecordingOff) :
    command cfg environ event = some (eventCommand cfg environ event) := by
  unfold command scriptFor eventCommand
  by_cases h : event.type = cameraEventRecordingOn
  · simp [h, hon]
  · rw [if_neg h, if_pos (he.resolve_left h), if_neg h]
    exact if_neg hoff

theorem commandsFor_eq (hon : cfg.onScript ≠ []) (hoff : cfg.offScript ≠ [])
    {events : List CameraEvent} (hevents : ∀ e ∈ events,
      e.type = cameraEventRecordingOn ∨ e.type = cameraEventRecordingOff) :
    commandsFor cfg environ events =
      events.zipIdx.map fun p => (p, eventCommand cfg environ p.1) := by
  rw [← List.filterMap_eq_map]
  refine List.filterMap_congr fun p hp => ?_
  have hmem : p.1 ∈ events := List.fst_mem_of_mem_zipIdx hp
  simp [startedFor, command_eq hon hoff (hevents _ hmem)]

/-- The events of the commands of a device are its events. -/
theorem events_ofDevice (v : GoString) (events : List CameraEvent) (cmd : CameraEvent → Cmd) :
    (ofDevice v (events.zipIdx.map fun p => (p, cmd p.1))).map (·.1.1) =
      events.filter fun e => e.videoDevice = v := by
  have hfilter : (events.zipIdx.filter ((fun e => decide (e.videoDevice = v)) ∘ Prod.fst)).map
      Prod.fst = events.filter fun e => e.videoDevice = v := by
    rw [← List.filter_map, List.zipIdx_map_fst]
  rw [← hfilter]
  unfold ofDevice
  rw [List.filter_map, List.map_map]
  rfl

/-- **Every event runs its script.** In every run that is not cancelled, once all have returned, the
commands that were started are those of the events, one each, under the names of their scripts and
with the device in their environment, and every run gets there. In a run that is calm for a device,
the commands of its events are started in their order, so the last one is that of its last event. -/
theorem scripts_started (cfg : ScriptNotifierConfig) (environ : List GoString)
    (events : List CameraEvent) (hon : cfg.onScript ≠ []) (hoff : cfg.offScript ≠ [])
    (hevents : ∀ e ∈ events,
      e.type = cameraEventRecordingOn ∨ e.type = cameraEventRecordingOff) :
    (∀ s, Reachable cfg environ events s → s.ctxDone = false →
      (Finished s →
        s.commands.Perm (events.zipIdx.map fun p => (p, eventCommand cfg environ p.1))) ∧
      (¬ Finished s → ∃ s', Step cfg environ s s' ∧ s'.ctxDone = false) ∧
      ∀ s', Step cfg environ s s' → s'.ctxDone = false → s'.remaining < s.remaining) ∧
    (∀ e, getenv (eventCommand cfg environ e).env (goString "CAMERA_COORDINATOR_DEVICE") =
      some e.videoDevice) ∧
    (∀ e, RunsAs cfg (if e.type = cameraEventRecordingOn then cfg.onScript else cfg.offScript)
      (eventCommand cfg environ e).name) ∧
    ∀ v s, CalmRun cfg environ events v s → s.ctxDone = false → Finished s →
      ofDevice v s.commands =
        ofDevice v (events.zipIdx.map fun p => (p, eventCommand cfg environ p.1)) ∧
      (ofDevice v s.commands).getLast?.map (·.1.1) =
        (events.filter fun e => e.videoDevice = v).getLast? := by
  rw [← commandsFor_eq hon hoff hevents]
  refine ⟨fun s hs hctx => ⟨fun hfin => ?_, exists_step hctx, fun s' => Step.remaining_lt⟩,
    fun e => getenv_scriptCommand _ _ _ _, fun e => runsAs_resolve cfg _,
    fun v s hs hctx hfin => ?_⟩
  · exact ((reachable_inv hs).perm_of_finished hctx hfin).2
  · obtain ⟨hrec, -⟩ := (reachable_inv hs.reachable).perm_of_finished hctx hfin
    have horder := hs.ordered.order hctx
    rw [hfin.2, hrec] at horder
    have heq : ofDevice v s.commands = ofDevice v (commandsFor cfg environ events) := by
      simpa [pending] using horder
    refine ⟨heq, ?_⟩
    rw [heq, ← List.getLast?_map, commandsFor_eq hon hoff hevents, events_ofDevice]

end

/-- Two scripts, one of them relative to the base directory. -/
def bothScripts : ScriptNotifierConfig := ⟨goString "./on.sh", goString "off.sh", goString "/etc"⟩

/-- A camera is turned on and off, and the script for the Off is started before the one for the
On. -/
theorem off_started_first : ∃ s, Reachable bothScripts []
      [.test cameraEventRecordingOn, .test cameraEventRecordingOff] s ∧
    s.ctxDone = false ∧ Finished s ∧
    s.commands.map (·.2.name) = [goString "off.sh", goString "/etc/on.sh"] := by
  have h0 : Reachable bothScripts []
    [.test cameraEventRecordingOn, .test cameraEventRecordingOff] _ := .refl
  have h1 := h0.tail (.receive rfl rfl)
  have h2 := h1.tail (.receive rfl rfl)
  have h3 := h2.tail (.closed rfl rfl)
  have h4 := h3.tail (.start (l := [_]) rfl rfl rfl)
  have h5 := h4.tail (.start (l := []) rfl rfl rfl)
  have h6 := h5.tail (.exit (l := []) rfl)
  have h7 := h6.tail (.exit (l := []) rfl)
  exact ⟨_, h7, rfl, ⟨rfl, rfl⟩, by decide⟩

/-- The Off is received once the script for the On was started. -/
theorem started_in_turn : ∃ s, Reachable bothScripts []
      [.test cameraEventRecordingOn, .test cameraEventRecordingOff] s ∧ Finished s ∧
    (ofDevice (goString "video0") s.commands).getLast?.map (·.1.1) =
      some (.test cameraEventRecordingOff) := by
  have h0 : CalmRun bothScripts [] [.test cameraEventRecordingOn, .test cameraEventRecordingOff]
    (goString "video0") _ := .refl
  have h1 := h0.tail ⟨.receive rfl rfl, fun _ _ _ h hh => by cases hh⟩
  have h2 := h1.tail ⟨.start (l := []) rfl rfl rfl, fun _ he => by simp [init] at he⟩
  have h3 := h2.tail ⟨.receive rfl rfl, fun _ _ _ h hh => by
    rw [List.mem_singleton.1 hh]
    rfl⟩
  have h4 := h3.tail ⟨.start (l := [_]) rfl rfl rfl, fun _ he => by simp [init] at he⟩
  have h5 := h4.tail ⟨.closed rfl rfl, fun _ he => by simp [init] at he⟩
  have h6 := h5.tail ⟨.exit (l := []) rfl, fun _ he => by simp [init] at he⟩
  have h7 := h6.tail ⟨.exit (l := []) rfl, fun _ he => by simp [init] at he⟩
  refine ⟨_, CalmRun.reachable h7, ⟨rfl, rfl⟩, ?_⟩
  obtain ⟨-, -, -, hinturn⟩ := scripts_started bothScripts [] [.test cameraEventRecordingOn,
    .test cameraEventRecordingOff] (by decide) (by decide) (by decide)
  exact (hinturn _ _ h7 rfl ⟨rfl, rfl⟩).2

/-! ## Any order -/

section
variable {cfg : ScriptNotifierConfig} {environ : List GoString}

/-- `Run` receives all events before any handler goes on. -/
theorem receive_all (s : State) (hr : s.returned = false) (events : List CameraEvent) :
    Relation.ReflTransGen (Step cfg environ) { s with incoming := events } { s with
      incoming := []
      received := s.received ++ events
      handlers := s.handlers ++ (events.zipIdx s.received.length).map .starting } := by
  induction events generalizing s with
  | nil => simpa using Relation.ReflTransGen.refl
  | cons event rest ih =>
    have hstep : Step cfg environ { s with incoming := event :: rest } _ := .receive hr rfl
    refine .head hstep ?_
    have hrest := ih { s with
      received := s.received ++ [event]
      handlers := s.handlers ++ [.starting (event, s.received.length)] } hr
    simpa [List.zipIdx_cons] using hrest

/-- Handlers without a command return. -/
theorem ignore_all (s : State) {ps : List Received}
    (hnone : ps.filterMap (startedFor cfg environ) = []) :
    Relation.ReflTransGen (Step cfg environ) { s with handlers := ps.map .starting }
      { s with handlers := [] } := by
  induction ps with
  | nil => exact .refl
  | cons p ps ih =>
    rw [List.filterMap_eq_nil_iff, List.forall_mem_cons] at hnone
    have hcmd : command cfg environ p.1 = none := by simpa [startedFor] using hnone.1
    have hstep : Step cfg environ { s with handlers := (p :: ps).map .starting } _ :=
      .ignore (l := []) rfl hcmd
    exact .head hstep (ih (List.filterMap_eq_nil_iff.2 hnone.2))

/-- Handlers start some of their commands, in any order, and the others have yet to. -/
theorem start_some (s : State) (hctx : s.ctxDone = false) {ps : List Received}
    {order rest : List Started}
    (horder : (order ++ rest).Perm (ps.filterMap (startedFor cfg environ))) :
    ∃ qs : List Received, rest.Perm (qs.filterMap (startedFor cfg environ)) ∧
      Relation.ReflTransGen (Step cfg environ) { s with handlers := ps.map .starting }
        { s with handlers := qs.map .starting, commands := s.commands ++ order } := by
  induction order generalizing s ps with
  | nil =>
    rw [List.append_nil]
    exact ⟨ps, horder, .refl⟩
  | cons c order ih =>
    have hmem : c ∈ ps.filterMap (startedFor cfg environ) :=
      horder.mem_iff.1 List.mem_cons_self
    obtain ⟨p, hp, hstarted⟩ := List.mem_filterMap.1 hmem
    obtain ⟨cmd, hcmd, rfl⟩ := Option.map_eq_some_iff.1 hstarted
    obtain ⟨l, r, rfl⟩ := List.append_of_mem hp
    have hothers : (order ++ rest).Perm ((l ++ r).filterMap (startedFor cfg environ)) := by
      rw [List.filterMap_append, List.filterMap_cons_some hstarted] at horder
      rw [List.filterMap_append]
      exact (horder.trans List.perm_middle).cons_inv
    have hstart : Step cfg environ { s with handlers := (l ++ p :: r).map .starting } _ :=
      .start hctx List.map_append hcmd
    obtain ⟨qs, hqs, hrun⟩ := ih { s with commands := s.commands ++ [(p, cmd)] } hctx hothers
    refine ⟨qs, hqs, .head hstart (.head (.exit rfl) ?_)⟩
    rw [← List.map_append]
    simpa using hrun

/-- The handlers start their commands in any order. -/
theorem start_all (s : State) (hctx : s.ctxDone = false) {ps : List Received}
    {order : List Started} (horder : order.Perm (ps.filterMap (startedFor cfg environ))) :
    Relation.ReflTransGen (Step cfg environ) { s with handlers := ps.map .starting }
      { s with handlers := [], commands := s.commands ++ order } := by
  rw [← List.append_nil order] at horder
  obtain ⟨qs, hqs, hrun⟩ := start_some s hctx horder
  exact hrun.trans (ignore_all { s with commands := s.commands ++ order } (List.nil_perm.1 hqs))

/-- **Any order is possible.** For every order of the commands of the events there is a run that
starts them in it. -/
theorem every_order (cfg : ScriptNotifierConfig) (environ : List GoString)
    (events : List CameraEvent) (order : List Started)
    (horder : order.Perm (commandsFor cfg environ events)) :
    ∃ s, Reachable cfg environ events s ∧ s.ctxDone = false ∧ Finished s ∧ s.commands = order := by
  have hreceive : Relation.ReflTransGen (Step cfg environ) (init events) _ :=
    receive_all (init events) rfl events
  have hstart : Relation.ReflTransGen (Step cfg environ) _ _ :=
    start_all { init events with incoming := [], received := events } rfl horder
  exact ⟨_, (hreceive.trans hstart).tail (.closed rfl rfl), rfl, ⟨rfl, rfl⟩, rfl⟩

end

end Script
