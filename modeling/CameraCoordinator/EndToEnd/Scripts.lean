import CameraCoordinator.EndToEnd.Arrival
import CameraCoordinator.EndToEnd.Causes
import CameraCoordinator.Notifier.Handlers

/-!
# From the kernel to the scripts

The system with the handlers of a script notifier next to it: for every event that the notifier
receives a handler is started, and the handlers go on as in `Script` while the probes, the daemon
and the application take their steps. The notifier's part of a run is a run of `Script` over what
was received and anything that may follow (`reachable_notifier`).

`scripts_agree`: where nothing is under way, the Ons that were started for a device outnumber the
Offs by one exactly while the device has an entry in `streaming_pid`; which of them was last is
right for the devices whose events did not overtake each other. `scripts_caused` is about every
state.
-/

set_option autoImplicit false

namespace EndToEnd

open Dbus (Store)
open Script (ScriptNotifierConfig Handler Started)
open Coord (broadcasts typesOf)

variable {n : Nat}

/-! ## States and steps -/

/-- The system, and the handlers of one of its script notifiers with what they have started. -/
structure Scripted (n : Nat) where
  system : State n
  handlers : List Handler
  commands : List Started

/-- What a script notifier has received. -/
def State.receivedAt (s : State n) (j : Fin n) : List CameraEvent :=
  (s.daemon.fan.outputs j.succ).consumed

/-- The handlers of the events after the first `k`. -/
def handlersAfter (k : Nat) (received : List CameraEvent) : List Handler :=
  (received.zipIdx.drop k).map .starting

namespace Scripted

def init : Scripted n := ⟨EndToEnd.init, [], []⟩

/-- The notifier before it receives further events. -/
def notifier (w : Scripted n) (j : Fin n) (incoming : List CameraEvent) : Script.State where
  ctxDone := w.system.daemon.fan.ctxDone
  incoming := incoming
  returned := false
  received := w.system.receivedAt j
  handlers := w.handlers
  commands := w.commands

inductive Step (store : Store) (cfg : ScriptNotifierConfig) (environ : List GoString)
    (j : Fin n) : Actor → Scripted n → Scripted n → Prop
  | system {w : Scripted n} {a : Actor} {s : State n} : EndToEnd.Step store a w.system s →
      Step store cfg environ j a w { w with
        system := s
        handlers := w.handlers ++ handlersAfter (w.system.receivedAt j).length (s.receivedAt j) }
  | handler {w : Scripted n} {t : Script.State} :
      Script.HandlerStep cfg environ (w.notifier j []) t →
      Step store cfg environ j .programs w { w with
        handlers := t.handlers
        commands := t.commands }

/-- The states of the runs. -/
def Reachable (store : Store) (cfg : ScriptNotifierConfig) (environ : List GoString) (j : Fin n)
    (w : Scripted n) : Prop :=
  Relation.ReflTransGen (fun w w' => ∃ a, Step store cfg environ j a w w') init w

/-- The states of the runs in which the notifier receives no event of the device while a handler has
yet to start the command of an earlier one. -/
def CalmRun (store : Store) (cfg : ScriptNotifierConfig) (environ : List GoString) (j : Fin n)
    (v : GoString) (w : Scripted n) : Prop :=
  Relation.ReflTransGen (fun w w' => (∃ a, Step store cfg environ j a w w') ∧
    Script.Calm v (w.notifier j []) (w'.notifier j [])) init w

end Scripted

/-! ## The parts of a run -/

/-- The notifier receives at most one event in a step, and none in one that cancels the context. -/
theorem Step.receivedAt {store : Store} {a : Actor} {s s' : State n} (h : Step store a s s')
    (j : Fin n) : (s'.daemon.fan.ctxDone = s.daemon.fan.ctxDone ∧
      (s'.receivedAt j = s.receivedAt j ∨ ∃ ev, s'.receivedAt j = s.receivedAt j ++ [ev])) ∨
    s'.daemon.fan.ctxDone = true ∧ s'.receivedAt j = s.receivedAt j := by
  unfold State.receivedAt
  rcases h.daemon with heq | ⟨b, hstep⟩
  · exact .inl ⟨by rw [heq], .inl (by rw [heq])⟩
  · exact hstep.consumed j.succ

theorem Step.receivedAt_length_le {store : Store} {a : Actor} {s s' : State n}
    (h : Step store a s s') (j : Fin n) : (s.receivedAt j).length ≤ (s'.receivedAt j).length := by
  rcases h.receivedAt j with ⟨-, hsame | ⟨ev, hev⟩⟩ | ⟨-, hsame⟩
  · rw [hsame]
  · simp [hev]
  · rw [hsame]

theorem handlersAfter_self (received : List CameraEvent) :
    handlersAfter received.length received = [] := by
  simp [handlersAfter]

theorem handlersAfter_snoc (received : List CameraEvent) (ev : CameraEvent) :
    handlersAfter received.length (received ++ [ev]) = [.starting (ev, received.length)] := by
  simp [handlersAfter, zipIdx_snoc]

namespace Scripted

section
variable {store : Store} {cfg : ScriptNotifierConfig} {environ : List GoString} {j : Fin n}
  {a : Actor} {w w' : Scripted n}

/-- **A step is a step of the notifier, or none of it.** -/
theorem Step.notifier (h : Step store cfg environ j a w w') (incoming : List CameraEvent) :
    ∃ incoming', w.system.receivedAt j ++ incoming' = w'.system.receivedAt j ++ incoming ∧
      (w'.notifier j incoming = w.notifier j incoming' ∨
        Script.Step cfg environ (w.notifier j incoming') (w'.notifier j incoming)) := by
  cases h with
  | @handler _ t ht =>
    have hstep := ht.spec.1 incoming
    obtain ⟨-, hctx, hret, hrec⟩ := ht
    have heq : { t with incoming := incoming } = Scripted.notifier
        { w with handlers := t.handlers, commands := t.commands } j incoming := by
      cases t
      simp only [Scripted.notifier] at hctx hret hrec ⊢
      rw [hctx, hret, hrec]
    rw [heq] at hstep
    exact ⟨incoming, rfl, .inr hstep⟩
  | @system _ _ s hs =>
    rcases hs.receivedAt j with ⟨hctx, hsame | ⟨ev, hev⟩⟩ | ⟨hctx, hsame⟩
    · refine ⟨incoming, by rw [hsame], .inl ?_⟩
      simp only [Scripted.notifier, hctx, hsame, handlersAfter_self, List.append_nil]
    · refine ⟨ev :: incoming, by simp [hev], .inr ?_⟩
      have hreceive : Script.Step cfg environ (w.notifier j (ev :: incoming)) _ :=
        .receive rfl rfl
      simpa only [Scripted.notifier, hctx, hev, handlersAfter_snoc] using hreceive
    · refine ⟨incoming, by rw [hsame], ?_⟩
      cases hold : w.system.daemon.fan.ctxDone with
      | true =>
        left
        simp only [Scripted.notifier, hctx, hold, hsame, handlersAfter_self, List.append_nil]
      | false =>
        right
        have hcancel : Script.Step cfg environ (w.notifier j incoming) _ := .cancel hold
        simpa only [Scripted.notifier, hctx, hsame, handlersAfter_self, List.append_nil]
          using hcancel

theorem Step.system_or (h : Step store cfg environ j a w w') :
    w'.system = w.system ∨ EndToEnd.Step store a w.system w'.system := by
  cases h with
  | system hs => exact .inr hs
  | handler _ => exact .inl rfl

/-- The system's part of a run is a run of the system. -/
theorem reachable_system (h : Reachable store cfg environ j w) :
    EndToEnd.Reachable store w.system := by
  have h0 : EndToEnd.Reachable store (Scripted.init : Scripted n).system := .refl
  refine h.invariant_labelled (P := fun w => EndToEnd.Reachable store w.system) h0
    fun {a w w'} hstep hw => ?_
  rcases hstep.system_or with heq | hs
  · rw [heq]
    exact hw
  · exact hw.tail ⟨a, hs⟩

/-- The notifier's part of a run is a run of the notifier, whatever it may still receive. -/
theorem reachable_notifier (h : Reachable store cfg environ j w) (incoming : List CameraEvent) :
    Script.Reachable cfg environ (w.system.receivedAt j ++ incoming) (w.notifier j incoming) := by
  obtain ⟨events, htotal, hrun⟩ := Relation.ReflTransGen.run_of_part
    (fun w : Scripted n => w.notifier j) (fun w => (w.system.receivedAt j ++ ·))
    (q := Script.Step cfg environ) (fun ⟨_, hstep⟩ => hstep.notifier) h incoming
  obtain rfl : events = w.system.receivedAt j ++ incoming := htotal
  exact hrun

theorem CalmRun.reachable {v : GoString} (h : CalmRun store cfg environ j v w) :
    Reachable store cfg environ j w :=
  Relation.ReflTransGen.mono (fun _ _ hstep => hstep.1) _ _ h

/-- The notifier's part of a calm run is calm. -/
theorem CalmRun.notifier {v : GoString} (h : CalmRun store cfg environ j v w)
    (incoming : List CameraEvent) : Script.CalmRun cfg environ
      (w.system.receivedAt j ++ incoming) v (w.notifier j incoming) := by
  have hstep : ∀ {u u' : Scripted n}, ((∃ a, Step store cfg environ j a u u') ∧
      Script.Calm v (u.notifier j []) (u'.notifier j [])) → ∀ incoming, ∃ incoming',
        u.system.receivedAt j ++ incoming' = u'.system.receivedAt j ++ incoming ∧
        (u'.notifier j incoming = u.notifier j incoming' ∨
          Script.Step cfg environ (u.notifier j incoming') (u'.notifier j incoming) ∧
          Script.Calm v (u.notifier j incoming') (u'.notifier j incoming)) := by
    rintro u u' ⟨⟨a, hu⟩, hcalm⟩ incoming
    obtain ⟨incoming', htotal, hnot⟩ := hu.notifier incoming
    exact ⟨incoming', htotal, hnot.imp_right fun hs => ⟨hs, hcalm⟩⟩
  obtain ⟨events, htotal, hrun⟩ := Relation.ReflTransGen.run_of_part
    (fun w : Scripted n => w.notifier j) (fun w => (w.system.receivedAt j ++ ·))
    (q := fun s s' => Script.Step cfg environ s s' ∧ Script.Calm v s s') hstep h incoming
  obtain rfl : events = w.system.receivedAt j ++ incoming := htotal
  exact hrun

end

/-! ## Nothing is under way -/

/-- Nothing is under way from the probes to the scripts, which may be running. -/
structure Quiet (w : Scripted n) : Prop where
  ctxDone : w.system.daemon.fan.ctxDone = false
  daemon : ¬ Main.Moves Main.mainKinds w.system.daemon
  ring : w.system.ring = []
  handlers : ∀ p, .starting p ∉ w.handlers

/-- A bound on the steps that the programs and the handlers take by themselves. -/
def work (w : Scripted n) : Nat := 3 * w.system.work + Script.handlerWork w.handlers

section
variable {store : Store} {cfg : ScriptNotifierConfig} {environ : List GoString} {j : Fin n}
  {w w' : Scripted n}

/-- **Every step of the programs and the handlers lowers the work.** -/
theorem Step.work_lt (h : Step store cfg environ j .programs w w') : w'.work < w.work := by
  cases h with
  | handler ht =>
    exact Nat.add_lt_add_left ht.spec.2 _
  | @system _ _ s hs =>
    have hlt := hs.work_lt
    have hle : Script.handlerWork (handlersAfter (w.system.receivedAt j).length
        (s.receivedAt j)) ≤ 2 := by
      have hone : s.receivedAt j = w.system.receivedAt j ∨
          ∃ ev, s.receivedAt j = w.system.receivedAt j ++ [ev] := by
        rcases hs.receivedAt j with ⟨-, h⟩ | ⟨-, h⟩
        · exact h
        · exact .inl h
      rcases hone with hsame | ⟨ev, hev⟩
      · rw [hsame, handlersAfter_self]
        exact Nat.zero_le 2
      · rw [hev, handlersAfter_snoc]
        exact Nat.le_refl 2
    have happend : Script.handlerWork (w.handlers ++
        handlersAfter (w.system.receivedAt j).length (s.receivedAt j)) =
          Script.handlerWork w.handlers + Script.handlerWork
            (handlersAfter (w.system.receivedAt j).length (s.receivedAt j)) := by
      simp [Script.handlerWork]
    simp only [work, happend]
    omega

/-- Where they have no step left and are running, nothing is under way. -/
theorem quiet_of_stuck (hw : Reachable store cfg environ j w) (hrun : Running w.system)
    (hstuck : ¬ ∃ w', Step store cfg environ j .programs w w') : Quiet w := by
  have hsystem : ¬ ∃ s, EndToEnd.Step store .programs w.system s := by
    rintro ⟨s, hs⟩
    exact hstuck ⟨_, .system hs⟩
  have hq := EndToEnd.quiet_of_stuck (reachable_system hw) hrun hsystem
  refine ⟨hq.ctxDone, hq.daemon, hq.ring, fun p hp => ?_⟩
  obtain ⟨t, ht⟩ := Script.exists_handlerStep (s := w.notifier j []) hp
  exact hstuck ⟨_, .handler ht⟩

end

end Scripted

/-! ## The scripts agree with the kernel -/

/-- Nothing has failed on the way to the coordinator, all devices capture and all releases are
final. The signals do not matter here, but the D-Bus notifier is connected. -/
structure Clean (s : State n) : Prop where
  firings : Bpf.Unfailing s.firings
  kill : ∀ h ∈ s.handled, h.1.source = Bpf.cameraEventSourceFopRelease → h.2 = .esrch
  query : ∀ r ∈ s.daemon.fan.received,
    ∃ cap, r.query = .ok cap ∧ cap.hasCapabilities [v4l2CapVideoCapture]
  connected : Connected s

section
variable {store : Store} {s : State n} (hs : Reachable store s)
  (hctx : s.daemon.fan.ctxDone = false) (hstuck : ¬ Main.Moves Main.mainKinds s.daemon)
include hs hctx hstuck

/-- A script notifier has received all broadcasts. -/
theorem receivedAt_of_stuck (hc : Connected s) (j : Fin n) :
    s.receivedAt j = broadcasts s.daemon.fan.received := by
  have hreach := reachable_daemon hs
  have hinv := Main.reachable_inv hreach
  have hlive := not_deadBlocked hs hctx hc
  refine Main.consumed_of_stuck hinv hctx hstuck (Main.reachable_drained hreach) hlive j.succ
    fun err herr => ?_
  have hkind := (hinv.buf_of_failed herr).1
  simp [Main.mainKinds] at hkind

/-- The devices that are on are those with an entry. -/
theorem level_iff_entry (hring : s.ring = []) (hclean : Clean s) (v : GoString) :
    Coord.Level v s.daemon.fan.received ↔ ∃ k ∈ Bpf.streamingPid s.firings, k.device = v := by
  rw [level_iff_reporting hs hctx hstuck hclean.connected hring (fun h hlast => ?_)
    (fun r hlast => ?_), Bpf.reporting_iff_entry hclean.firings]
  · exact delivered_of_final (hclean.kill h (List.mem_of_mem_filter (List.mem_of_getLast? hlast)))
  · have hmem := List.mem_of_mem_filter (List.mem_of_getLast? hlast)
    exact accepted_of_capture hs hctx hstuck hclean.connected hmem (hclean.query r hmem)

end

namespace Scripted

section
variable {store : Store} {cfg : ScriptNotifierConfig} {environ : List GoString} {j : Fin n}
  {w : Scripted n}

/-- All commands of the events received were started. -/
theorem commands_of_quiet (hon : cfg.onScript ≠ []) (hoff : cfg.offScript ≠ [])
    (hw : Reachable store cfg environ j w) (hq : Quiet w) (hc : Connected w.system) :
    w.commands.Perm ((broadcasts w.system.daemon.fan.received).zipIdx.map
      fun p => (p, Script.eventCommand cfg environ p.1)) := by
  have hperm := (Script.reachable_inv (reachable_notifier hw [])).perm hq.ctxDone
  have hrec := receivedAt_of_stuck (reachable_system hw) hq.ctxDone hq.daemon hc j
  dsimp only [Scripted.notifier] at hperm
  rw [Script.pending_eq_nil hq.handlers, List.append_nil, hrec,
    Script.commandsFor_eq hon hoff (Autolight.onsAndOffs_broadcasts _)] at hperm
  exact hperm

/-- In a calm run they were started in the order of the events of the device. -/
theorem last_of_quiet {v : GoString} (hon : cfg.onScript ≠ []) (hoff : cfg.offScript ≠ [])
    (hw : CalmRun store cfg environ j v w) (hq : Quiet w) (hc : Connected w.system) :
    (Script.ofDevice v w.commands).getLast?.map (·.1.1.type) =
      (typesOf v (broadcasts w.system.daemon.fan.received)).getLast? := by
  have horder := (hw.notifier []).ordered.order hq.ctxDone
  have hrec := receivedAt_of_stuck (reachable_system hw.reachable) hq.ctxDone hq.daemon hc j
  dsimp only [Scripted.notifier] at horder
  rw [Script.pending_eq_nil hq.handlers, List.append_nil, hrec,
    Script.commandsFor_eq hon hoff (Autolight.onsAndOffs_broadcasts _)] at horder
  have hevents := Script.events_ofDevice v (broadcasts w.system.daemon.fan.received)
    (Script.eventCommand cfg environ)
  have hmap : (Script.ofDevice v w.commands).map (·.1.1.type) =
      typesOf v (broadcasts w.system.daemon.fan.received) := by
    have htypes := congrArg (List.map (·.type)) hevents
    rw [List.map_map] at htypes
    rw [horder]
    refine htypes.trans (congrArg (List.map CameraEvent.type) (List.filter_congr fun e _ => ?_))
    rw [Bool.eq_iff_iff]
    simp
  rw [← List.getLast?_map, hmap]

end

/-- **The scripts agree with the kernel.** From every reachable state the programs and the handlers
get by themselves to one in which, if they are still running, nothing is under way. In every such
state, if nothing has failed on the way to the coordinator, all devices capture, all releases are
final and the D-Bus notifier is connected, whatever became of its signals, and both scripts are set:
for each device as many scripts were started for an On as for an Off, and one more for an On if the
device has an entry in `streaming_pid`; and in a calm run the last one is for an On exactly then. -/
theorem scripts_agree (store : Store) (cfg : ScriptNotifierConfig) (environ : List GoString)
    (hon : cfg.onScript ≠ []) (hoff : cfg.offScript ≠ []) (j : Fin n) (w : Scripted n)
    (hw : Reachable store cfg environ j w) :
    (∃ w', Relation.ReflTransGen (Step store cfg environ j .programs) w w' ∧
      w'.system.firings = w.system.firings ∧ (Running w'.system → Quiet w')) ∧
    (Quiet w → Clean w.system → ∀ v,
      ((∃ k ∈ Bpf.streamingPid w.system.firings, k.device = v) →
        w.commands.countP (Script.isOf cameraEventRecordingOn v) =
          w.commands.countP (Script.isOf cameraEventRecordingOff v) + 1) ∧
      ((¬ ∃ k ∈ Bpf.streamingPid w.system.firings, k.device = v) →
        w.commands.countP (Script.isOf cameraEventRecordingOn v) =
          w.commands.countP (Script.isOf cameraEventRecordingOff v)) ∧
      (CalmRun store cfg environ j v w →
        ((Script.ofDevice v w.commands).getLast?.map (·.1.1.type) = some cameraEventRecordingOn ↔
          ∃ k ∈ Bpf.streamingPid w.system.firings, k.device = v))) := by
  refine ⟨?_, fun hq hclean v => ?_⟩
  · obtain ⟨w', hrun, hstuck⟩ := Relation.ReflTransGen.exists_stuck
      (r := Step store cfg environ j .programs) (μ := work) Step.work_lt w
    have hw' : Reachable store cfg environ j w' :=
      hw.trans (Relation.ReflTransGen.mono (fun _ _ hstep => ⟨_, hstep⟩) _ _ hrun)
    refine ⟨w', hrun, ?_, fun hrunning => quiet_of_stuck hw' hrunning fun ⟨t, ht⟩ => hstuck t ht⟩
    refine hrun.invariant (P := fun t => t.system.firings = w.system.firings) rfl ?_
    intro t t' hstep ht
    rcases hstep.system_or with heq | hs
    · rw [heq]
      exact ht
    · exact hs.firings_eq.trans ht
  · have hlevel := level_iff_entry (reachable_system hw) hq.ctxDone hq.daemon hq.ring hclean v
    have hperm := commands_of_quiet hon hoff hw hq hclean.connected
    obtain ⟨hup, hdown⟩ := Coord.count_broadcasts w.system.daemon.fan.received v
    have hcount : ∀ type, w.commands.countP (Script.isOf type v) =
        (typesOf v (broadcasts w.system.daemon.fan.received)).count type := by
      intro type
      rw [hperm.countP_eq, Script.countP_commands]
    rw [hcount, hcount, ← hlevel]
    refine ⟨hup, hdown, fun hcalm => ?_⟩
    rw [last_of_quiet hon hoff hcalm hq hclean.connected, Coord.getLast_broadcasts_iff]

/-- A step of the system keeps a run calm in which no handler has been started. -/
theorem CalmRun.system {store : Store} {cfg : ScriptNotifierConfig} {environ : List GoString}
    {j : Fin n} {v : GoString} {a : Actor} {w : Scripted n} {s : State n}
    (h : CalmRun store cfg environ j v w) (hidle : w.handlers = [])
    (hs : EndToEnd.Step store a w.system s) : CalmRun store cfg environ j v { w with
        system := s
        handlers := w.handlers ++
          handlersAfter (w.system.receivedAt j).length (s.receivedAt j) } := by
  refine h.tail ⟨⟨a, .system hs⟩, fun _ _ _ p hp => ?_⟩
  have hmem : p ∈ w.handlers := hp
  rw [hidle] at hmem
  cases hmem

/-- So does a run of the system in which the notifier receives nothing. -/
theorem CalmRun.run {store : Store} {cfg : ScriptNotifierConfig} {environ : List GoString}
    {j : Fin n} {v : GoString} {w : Scripted n} {s : State n} (h : CalmRun store cfg environ j v w)
    (hidle : w.handlers = [])
    (hrun : Relation.ReflTransGen (fun s s' => ∃ a, EndToEnd.Step store a s s') w.system s)
    (hsame : (s.receivedAt j).length = (w.system.receivedAt j).length) :
    CalmRun store cfg environ j v { w with system := s } := by
  induction hrun with
  | refl => exact h
  | @tail u s hu hstep ih =>
    obtain ⟨a, hstep⟩ := hstep
    have hle : (w.system.receivedAt j).length ≤ (u.receivedAt j).length :=
      hu.invariant (P := fun u => (w.system.receivedAt j).length ≤ (u.receivedAt j).length)
        (Nat.le_refl _) fun ⟨_, hs⟩ hle => hle.trans (hs.receivedAt_length_le j)
    have hlen := hstep.receivedAt_length_le j
    have hbefore := ih (by omega)
    have hcalm := hbefore.system hidle hstep
    have hnone : handlersAfter (u.receivedAt j).length (s.receivedAt j) = [] := by
      simp only [handlersAfter, List.map_eq_nil_iff, List.drop_eq_nil_iff, List.length_zipIdx]
      omega
    dsimp only at hcalm
    rwa [hnone, List.append_nil] at hcalm

/-- `video0` is turned on, and the script for it started. -/
theorem exists_started : ∃ w : Scripted 1,
    CalmRun Dbus.storeFields Script.bothScripts [] 0 Bpf.video0.device w ∧ Quiet w ∧
    Clean w.system ∧ w.system.firings = [Bpf.onVideo0 .streamon 7] ∧
    w.commands.map (·.2.name) = [goString "/etc/on.sh"] ∧
    w.commands.countP (Script.isOf cameraEventRecordingOn Bpf.video0.device) = 1 := by
  have h0 : EndToEnd.Reachable Dbus.storeFields (n := 1) _ := run_ready rfl rfl
  have h1 := h0.tail ⟨_, .fire (Bpf.onVideo0 .streamon 7)⟩
  -- the record is read, its event received and broadcast to both notifiers
  have h2 := h1.tail ⟨_, .read .esrch rfl rfl rfl⟩
  have h3 := h2.tail ⟨_, .own (a := .detector 0) (by simp)
    (.pass (.ok .capture) (.send rfl) rfl ⟨rfl, rfl⟩) (by simp)⟩
  have h4 := h3.tail ⟨_, .own (by simp) (.send (j := 0) rfl rfl) (by simp)⟩
  have h5 := h4.tail ⟨_, .own (by simp) (.send (j := 1) rfl rfl) (by simp)⟩
  have h6 := h5.tail ⟨_, .own (by simp) (.finish rfl) (by simp)⟩
  have h7 := h6.tail ⟨_, .own (a := .notifier 0) (by simp) (.consume rfl rfl)
    fun _ h => by cases h⟩
  have h8 := h7.tail ⟨_, .emitFails rfl⟩
  -- the script notifier starts its handler, which starts the script
  have hinit : CalmRun Dbus.storeFields Script.bothScripts [] 0 Bpf.video0.device
    (init : Scripted 1) := .refl
  have h9 := (hinit.run rfl h8 rfl).system rfl (.own (a := .notifier 1) (by simp)
    (.consume rfl rfl) fun _ _ => by simp)
  have h10 := h9.tail ⟨⟨_, .handler ⟨.start (l := []) rfl rfl rfl, rfl, rfl, rfl⟩⟩,
    fun _ hrec => by simp [notifier] at hrec⟩
  refine ⟨_, h10, ⟨rfl, Main.Waiting.not_moves ?_, rfl, fun p hp => ?_⟩,
    ⟨.of_length (by decide) (by decide), List.forall_mem_singleton.2 fun _ => rfl,
      List.forall_mem_singleton.2 ⟨.capture, rfl, by decide⟩, fun err h => by cases h⟩,
    rfl, by decide, by decide⟩
  · exact ⟨rfl, rfl, ⟨rfl, rfl⟩, Fin.forall_fin_one.2 ⟨rfl, rfl, rfl, rfl⟩, Nat.zero_lt_one, rfl,
      rfl, Fin.forall_fin_two.2 ⟨⟨rfl, rfl, rfl⟩, rfl, rfl, rfl⟩⟩
  · cases List.mem_singleton.1 hp

/-- The script for `video0` is the one more. -/
theorem script_agrees_after_on : ∃ w : Scripted 1,
    Reachable Dbus.storeFields Script.bothScripts [] 0 w ∧
    w.commands.map (·.2.name) = [goString "/etc/on.sh"] ∧
    w.commands.countP (Script.isOf cameraEventRecordingOn Bpf.video0.device) =
      w.commands.countP (Script.isOf cameraEventRecordingOff Bpf.video0.device) + 1 ∧
    (Script.ofDevice Bpf.video0.device w.commands).getLast?.map (·.1.1.type) =
      some cameraEventRecordingOn := by
  obtain ⟨w, hw, hq, hclean, hfirings, hname, -⟩ := exists_started
  have hentry : ∃ k ∈ Bpf.streamingPid w.system.firings, k.device = Bpf.video0.device := by
    rw [hfirings]
    exact ⟨Bpf.video0, by decide, rfl⟩
  obtain ⟨hon, -, hlast⟩ := (scripts_agree _ _ _ (by decide) (by decide) _ _ hw.reachable).2 hq
    hclean Bpf.video0.device
  exact ⟨w, hw.reachable, hname, hon hentry, (hlast hw).2 hentry⟩

/-! ## Every script has a cause -/

/-- **Every script has a cause.** In every reachable state, whatever has failed, was lost or
cancelled and in whatever order the handlers go on: the commands started are some of those of the
events received, each at most once; these are a subsequence of the broadcasts; and for each device
neither more Ons nor more Offs were started than streamons on it were submitted. -/
theorem scripts_caused (store : Store) (cfg : ScriptNotifierConfig) (environ : List GoString)
    (j : Fin n) (w : Scripted n) (hw : Reachable store cfg environ j w) :
    w.commands.Subperm (Script.commandsFor cfg environ (w.system.receivedAt j)) ∧
    (w.system.receivedAt j).Sublist (broadcasts w.system.daemon.fan.received) ∧
    ∀ v, w.commands.countP (Script.isOf cameraEventRecordingOn v) ≤
        w.system.firings.countP (fun f => TurnsOn v f) ∧
      w.commands.countP (Script.isOf cameraEventRecordingOff v) ≤
        w.system.firings.countP (fun f => TurnsOn v f) := by
  have hs := reachable_system hw
  have hsub : w.commands.Subperm (Script.commandsFor cfg environ (w.system.receivedAt j)) := by
    have hstarted := Script.reachable_subperm (reachable_notifier hw [])
    rwa [List.append_nil] at hstarted
  have hrec : (w.system.receivedAt j).Sublist (broadcasts w.system.daemon.fan.received) :=
    (Main.reachable_inv (reachable_daemon hs)).consumed_sublist j.succ
  refine ⟨hsub, hrec, fun v => ?_⟩
  have hcount : ∀ type, w.commands.countP (Script.isOf type v) ≤
      (typesOf v (broadcasts w.system.daemon.fan.received)).count type := fun type =>
    calc w.commands.countP (Script.isOf type v)
      _ ≤ (Script.commandsFor cfg environ (w.system.receivedAt j)).countP (Script.isOf type v) :=
          hsub.countP_le _
      _ ≤ (typesOf v (w.system.receivedAt j)).count type := Script.countP_commandsFor_le _ _ _
      _ ≤ (typesOf v (broadcasts w.system.daemon.fan.received)).count type :=
          ((hrec.filter _).map _).count_le _
  have hons : (typesOf v (broadcasts w.system.daemon.fan.received)).count
      cameraEventRecordingOn ≤ w.system.firings.countP fun f => TurnsOn v f := by
    rw [count_typesOf]
    exact broadcast_ons_le_firings hs v
  -- an Off is broadcast for an On
  have hoffs : (typesOf v (broadcasts w.system.daemon.fan.received)).count
      cameraEventRecordingOff ≤ (typesOf v (broadcasts w.system.daemon.fan.received)).count
        cameraEventRecordingOn := by
    rw [(Coord.alternates_broadcasts _ v).count_eq (by decide)]
    exact Nat.le_add_right _ _
  exact ⟨(hcount _).trans hons, (hcount _).trans (hoffs.trans hons)⟩

/-- The one script that was started is for the one streamon. -/
theorem script_for_streamon : ∃ w : Scripted 1,
    Reachable Dbus.storeFields Script.bothScripts [] 0 w ∧
    w.system.firings = [Bpf.onVideo0 .streamon 7] ∧
    w.commands.countP (Script.isOf cameraEventRecordingOn Bpf.video0.device) = 1 ∧
    w.commands.Subperm (Script.commandsFor Script.bothScripts [] (w.system.receivedAt 0)) ∧
    (w.system.receivedAt 0).Sublist (broadcasts w.system.daemon.fan.received) ∧
    1 ≤ w.system.firings.countP (fun f => TurnsOn Bpf.video0.device f) ∧
    w.commands.countP (Script.isOf cameraEventRecordingOff Bpf.video0.device) ≤
      w.system.firings.countP fun f => TurnsOn Bpf.video0.device f := by
  obtain ⟨w, hw, -, -, hfirings, -, hone⟩ := exists_started
  obtain ⟨hstarted, hreceived, hcount⟩ := scripts_caused _ _ _ _ _ hw.reachable
  obtain ⟨hons, hoffs⟩ := hcount Bpf.video0.device
  rw [hone] at hons
  exact ⟨w, hw.reachable, hfirings, hone, hstarted, hreceived, hons, hoffs⟩

end Scripted

end EndToEnd
