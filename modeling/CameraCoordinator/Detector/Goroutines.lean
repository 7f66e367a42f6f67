import CameraCoordinator.Detector.ReadLoop
import CameraCoordinator.Lib.Chan
import CameraCoordinator.Lib.Runs

/-!
# The detector's goroutines

One call of `EBPFVb2IoctlStreamDetector.Run` as a step relation between its two goroutines: `Run`
itself, which sets up the probes, starts the reader goroutine and waits at its `select`, and the
reader goroutine, whose body for a record is `Detect.onRecord`. They share the `ringbuf.Reader` and
`errCh`. A step is labelled by what it needs from outside: nothing, the ring buffer or a receiver of
the event it sends.

`Inv` holds along every run (`Step.inv`, `Inv.cancel`); `read_loop_delivers` is what it says about
the events sent, the error returned and the channel `errCh`.
-/

set_option autoImplicit false

namespace Detect

/-! ## States -/

/-- The calls of `Run` that may fail before the reader goroutine is started. -/
inductive Setup
  | loadObjects
  | attachStreamon
  | attachStreamoff
  | attachFopRelease
  | newReader
  deriving DecidableEq

/-- What the error of the call is wrapped in. -/
def Setup.errorf : Setup → GoString
  | .loadObjects => goString "load bpf objects: "
  | .attachStreamon => goString "attach kprobe vb2_ioctl_streamon: "
  | .attachStreamoff => goString "attach kprobe vb2_ioctl_streamoff: "
  | .attachFopRelease => goString "attach kprobe vb2_fop_release: "
  | .newReader => goString "create ringbuf reader: "

def Setup.next : Setup → Option Setup
  | .loadObjects => some .attachStreamon
  | .attachStreamon => some .attachStreamoff
  | .attachStreamoff => some .attachFopRelease
  | .attachFopRelease => some .newReader
  | .newReader => none

/-- The error of a `ReadInto`. -/
inductive ReadError
  | errClosed
  | other (err : GoString)
  deriving DecidableEq

/-- What the reader goroutine sends on `errCh` for it. -/
def ReadError.report : ReadError → Option GoString
  | .errClosed => none
  | .other err => some (goString "read ringbuf: " ++ err)

/-- Where `Run` is: in its setup, at its `select`, at `reader.Close()`, at `wg.Wait()` or
returned. -/
inductive Outer
  | setup (call : Setup)
  | select
  | closing (err : Option GoString)
  | waiting (err : Option GoString)
  | returned (err : Option GoString)
  deriving DecidableEq

/-- Where the reader goroutine is: at its `ReadInto`, at its `select`, at a send on `errCh` or at
its end. -/
inductive Reader
  | notStarted
  | readInto
  | sending (ev : CameraEvent)
  | reporting (err : Option GoString)
  | finished
  deriving DecidableEq

structure State where
  outer : Outer
  reader : Reader
  /-- `reader.Close()` was called. -/
  closed : Bool
  errCh : Chan (Option GoString)
  /-- The records handed out by `ReadInto`. -/
  read : List Record
  /-- The error of the `ReadInto` that failed. -/
  readErr : Option ReadError
  /-- The events sent on `ch`. -/
  sent : List CameraEvent
  /-- What was sent on `errCh`. -/
  reported : List (Option GoString)

/-- `Run` is called. -/
def init : State where
  outer := .setup .loadObjects
  reader := .notStarted
  closed := false
  errCh := .make 1
  read := []
  readErr := none
  sent := []
  reported := []

/-! ## Steps -/

/-- What a step needs from outside. -/
inductive Act
  | tau
  | kernel
  | send (ev : CameraEvent)
  deriving DecidableEq

/-- The body of the loop for a record, up to its `select` if it gets there. -/
def State.handle (s : State) (rec : Record) : State :=
  { s with
    read := s.read ++ [rec]
    reader := match onRecord rec with
      | .sent ev => .sending ev
      | .skipped => .readInto
      | .failed err => .reporting (some err) }

inductive Step (ctxDone : Bool) : State → Act → State → Prop
  -- `Run`
  | setup {s : State} {call call' : Setup} : s.outer = .setup call → call.next = some call' →
      Step ctxDone s .tau { s with outer := .setup call' }
  | setupFails {s : State} {call : Setup} (err : GoString) : s.outer = .setup call →
      Step ctxDone s .tau { s with outer := .returned (some (call.errorf ++ err)) }
  | start {s : State} {call : Setup} : s.outer = .setup call → call.next = none →
      Step ctxDone s .tau { s with outer := .select, reader := .readInto }
  | done {s : State} : s.outer = .select → ctxDone = true →
      Step ctxDone s .tau { s with outer := .closing none }
  | recvErr {s : State} {err : Option GoString} {c : Chan (Option GoString)} : s.outer = .select →
      s.errCh.recv = some (some err, c) →
      Step ctxDone s .tau { s with outer := .closing err, errCh := c }
  | close {s : State} {err : Option GoString} : s.outer = .closing err →
      Step ctxDone s .tau { s with outer := .waiting err, closed := true }
  | wait {s : State} {err : Option GoString} : s.outer = .waiting err → s.reader = .finished →
      Step ctxDone s .tau { s with outer := .returned err }
  -- the reader goroutine
  | readRecord {s : State} (rec : Record) : s.reader = .readInto → s.closed = false →
      Step ctxDone s .kernel (s.handle rec)
  | readFails {s : State} (err : ReadError) : s.reader = .readInto → s.closed = false →
      Step ctxDone s .kernel { s with reader := .reporting err.report, readErr := some err }
  | readClosed {s : State} : s.reader = .readInto → s.closed = true →
      Step ctxDone s .tau { s with
        reader := .reporting ReadError.errClosed.report, readErr := some .errClosed }
  | sendDone {s : State} {ev : CameraEvent} : s.reader = .sending ev → ctxDone = true →
      Step ctxDone s .tau { s with reader := .reporting none }
  | send {s : State} {ev : CameraEvent} : s.reader = .sending ev →
      Step ctxDone s (.send ev) { s with reader := .readInto, sent := s.sent ++ [ev] }
  | report {s : State} {err : Option GoString} {c : Chan (Option GoString)} :
      s.reader = .reporting err → s.errCh.send err = some c →
      Step ctxDone s .tau { s with
        reader := .finished, errCh := c, reported := s.reported ++ [err] }

/-! ## What is to be sent -/

/-- The record can be decoded. -/
def Decodes (rec : Record) : Prop := ∃ ev, binaryRead rec.rawSample = .ok ev

instance (rec : Record) : Decidable (Decodes rec) :=
  match h : binaryRead rec.rawSample with
  | .ok ev => .isTrue ⟨ev, h⟩
  | .error err => .isFalse fun ⟨ev, h'⟩ => by rw [h] at h'; cases h'

/-- The event a record is to be sent as: none for a release whose process is not known to be
gone. -/
def toSend (rec : Record) : Option CameraEvent :=
  match binaryRead rec.rawSample with
  | .ok ev => delivered ev rec.kill
  | .error _ => none

/-- The events of the records before the first that cannot be decoded. -/
def image (recs : List Record) : List CameraEvent :=
  (recs.takeWhile fun rec => decide (Decodes rec)).filterMap toSend

/-- What the loop does with a record. -/
theorem onRecord_cases (rec : Record) :
    (∃ ev, onRecord rec = .sent ev ∧ Decodes rec ∧ toSend rec = some ev) ∨
    (onRecord rec = .skipped ∧ Decodes rec ∧ toSend rec = none) ∨
    (∃ err, onRecord rec = .failed err ∧ ¬ Decodes rec) := by
  cases hr : binaryRead rec.rawSample with
  | error err =>
    refine .inr (.inr ⟨_, by unfold onRecord; rw [hr], ?_⟩)
    rintro ⟨ev, h⟩
    rw [hr] at h
    cases h
  | ok ev =>
    have hd : Decodes rec := ⟨ev, hr⟩
    unfold toSend onRecord delivered
    rw [hr]
    dsimp only
    by_cases hs : ev.source = 2
    · cases hk : rec.kill <;> simp [hs, hd]
    · simp [hs, hd]

/-- Once failed the loop sends no more. -/
theorem readLoop_failed (err : GoString) (recs : List Record) :
    readLoop.state (some err) recs = some err ∧ readLoop.out (some err) recs = [] := by
  induction recs with
  | nil => exact ⟨rfl, rfl⟩
  | cons rec recs ih => exact ih

/-- The read loop sends the image of the records and fails on a record it cannot decode. -/
theorem readLoop_image (recs : List Record) : readLoop.out none recs = image recs ∧
    (readLoop.state none recs = none ↔ ∀ rec ∈ recs, Decodes rec) := by
  induction recs with
  | nil => exact ⟨rfl, by simp⟩
  | cons rec recs ih =>
    obtain ⟨hout, hstate⟩ := ih
    rw [Mealy.out_cons, Mealy.state_cons]
    rcases onRecord_cases rec with ⟨ev, hr, hd, hs⟩ | ⟨hr, hd, hs⟩ | ⟨err, hr, hd⟩
    · have hstep : readLoop.step none rec = (none, [ev]) := by simp [readLoop, hr]
      rw [hstep, hout, hstate]
      simp [image, hd, hs]
    · have hstep : readLoop.step none rec = (none, []) := by simp [readLoop, hr]
      rw [hstep, hout, hstate]
      simp [image, hd, hs]
    · have hstep : readLoop.step none rec = (some err, []) := by simp [readLoop, hr]
      rw [hstep, (readLoop_failed err recs).1, (readLoop_failed err recs).2]
      simp [image, hd]

/-! ## The invariants -/

/-- The reader goroutine has ended its loop to report `err`: a read failed, a record could not be
decoded, or it gave up sending an event. -/
inductive Ended (ctxDone : Bool) (recs : List Record) (readErr : Option ReadError)
    (sent : List CameraEvent) : Option GoString → Prop
  | read {e : ReadError} : readErr = some e → readLoop.state none recs = none →
      readLoop.out none recs = sent → Ended ctxDone recs readErr sent e.report
  | decode {err : GoString} : readErr = none → readLoop.state none recs = some err →
      readLoop.out none recs = sent → Ended ctxDone recs readErr sent (some err)
  | done {ev : CameraEvent} : ctxDone = true → readErr = none → readLoop.state none recs = none →
      readLoop.out none recs = sent ++ [ev] → Ended ctxDone recs readErr sent none

/-- How what was sent stands to the sequential loop. -/
def Loop (ctxDone : Bool) (s : State) : Prop :=
  match s.reader with
  | .notStarted => s.read = [] ∧ s.readErr = none ∧ s.sent = []
  | .readInto => s.readErr = none ∧ readLoop.state none s.read = none ∧
      readLoop.out none s.read = s.sent
  | .sending ev => s.readErr = none ∧ readLoop.state none s.read = none ∧
      readLoop.out none s.read = s.sent ++ [ev]
  | .reporting err => Ended ctxDone s.read s.readErr s.sent err
  | .finished => ∃ err, s.reported = [err] ∧ Ended ctxDone s.read s.readErr s.sent err

/-- `Run` is past its `select` with `err`: it saw the cancellation, or took the report. -/
def Took (ctxDone : Bool) (s : State) (err : Option GoString) : Prop :=
  (ctxDone = true ∧ err = none ∧ s.errCh.buf = s.reported) ∨ (s.reported = [err] ∧ s.errCh.buf = [])

/-- Where `Run` is, and what is in `errCh` there. -/
def Waits (ctxDone : Bool) (s : State) : Prop :=
  match s.outer with
  | .setup _ => s.reader = .notStarted ∧ s.errCh.buf = []
  | .select => s.reader ≠ .notStarted ∧ s.errCh.buf = s.reported
  | .closing err => s.reader ≠ .notStarted ∧ Took ctxDone s err
  | .waiting err => s.reader ≠ .notStarted ∧ s.closed = true ∧ Took ctxDone s err
  | .returned err => (s.reader = .notStarted ∧ err.isSome ∧ s.errCh.buf = []) ∨
      (s.reader = .finished ∧ Took ctxDone s err)

structure Inv (ctxDone : Bool) (s : State) : Prop where
  loop : Loop ctxDone s
  waits : Waits ctxDone s
  reported : s.reader ≠ .finished → s.reported = []
  errCh : s.errCh.cap = 1 ∧ s.errCh.closed = false

theorem init_inv : Inv false init where
  loop := ⟨rfl, rfl, rfl⟩
  waits := ⟨rfl, rfl⟩
  reported := fun _ => rfl
  errCh := ⟨rfl, rfl⟩

theorem Ended.mono {recs : List Record} {readErr : Option ReadError} {sent : List CameraEvent}
    {err : Option GoString} (h : Ended false recs readErr sent err) :
    Ended true recs readErr sent err := by
  cases h with
  | read he hs ho => exact .read he hs ho
  | decode he hs ho => exact .decode he hs ho
  | done hc => cases hc

theorem Took.mono {s : State} {err : Option GoString} (h : Took false s err) :
    Took true s err := h.imp (fun hc => absurd hc.1 Bool.false_ne_true) id

/-- Cancelling keeps the invariants. -/
theorem Inv.cancel {ctxDone : Bool} {s : State} (h : Inv ctxDone s) : Inv true s := by
  cases ctxDone with
  | true => exact h
  | false =>
    refine ⟨?_, ?_, h.reported, h.errCh⟩
    · have hl := h.loop
      unfold Loop at *
      split at hl
      · exact hl
      · exact hl
      · exact hl
      · exact hl.mono
      · exact hl.imp fun _ he => ⟨he.1, he.2.mono⟩
    · have hw := h.waits
      unfold Waits at *
      split at hw
      · exact hw
      · exact hw
      · exact hw.imp id Took.mono
      · exact hw.imp id (And.imp id Took.mono)
      · exact hw.imp id (And.imp id Took.mono)

/-! ## One step -/

/-- A record is handled as by the sequential loop. -/
theorem loop_handle {ctxDone : Bool} {s : State} (rec : Record) (hr : s.reader = .readInto)
    (h : Loop ctxDone s) : Loop ctxDone (s.handle rec) := by
  unfold Loop at h
  rw [hr] at h
  obtain ⟨herr, hstate, hout⟩ := h
  have hstate' : readLoop.state none (s.read ++ [rec]) = (readLoop.step none rec).1 := by
    rw [Mealy.state_snoc, hstate]
  have hout' : readLoop.out none (s.read ++ [rec]) = s.sent ++ (readLoop.step none rec).2 := by
    rw [Mealy.out_snoc, hstate, hout]
  unfold Loop State.handle
  cases hh : onRecord rec with
  | sent ev =>
    refine ⟨herr, ?_, ?_⟩
    · rw [hstate']; simp [readLoop, hh]
    · rw [hout']; simp [readLoop, hh]
  | skipped =>
    refine ⟨herr, ?_, ?_⟩
    · rw [hstate']; simp [readLoop, hh]
    · rw [hout']; simp [readLoop, hh]
  | failed err =>
    refine .decode herr ?_ ?_
    · rw [hstate']; simp [readLoop, hh]
    · rw [hout']; simp [readLoop, hh]

theorem reader_handle (s : State) (rec : Record) : (s.handle rec).reader ≠ .notStarted := by
  unfold State.handle
  cases onRecord rec <;> simp

/-- A step of the reader goroutine that neither starts nor ends it leaves `Run` where it is. -/
theorem Waits.congr {ctxDone : Bool} {s s' : State} (h : Waits ctxDone s)
    (hr : s.reader ≠ .notStarted ∧ s.reader ≠ .finished) (hr' : s'.reader ≠ .notStarted)
    (houter : s'.outer = s.outer) (hclosed : s'.closed = s.closed) (herr : s'.errCh = s.errCh)
    (hrep : s'.reported = s.reported) : Waits ctxDone s' := by
  unfold Waits Took at *
  rw [houter, herr, hclosed, hrep]
  split at h
  · exact absurd h.1 hr.1
  · exact ⟨hr', h.2⟩
  · exact ⟨hr', h.2⟩
  · exact ⟨hr', h.2⟩
  · rcases h with h | h
    · exact absurd h.1 hr.1
    · exact absurd h.1 hr.2

/-- The report of the reader goroutine goes into the empty `errCh`. -/
theorem waits_report {ctxDone : Bool} {s : State} {err : Option GoString}
    {c : Chan (Option GoString)} (h : Waits ctxDone s) (hr : s.reader = .reporting err)
    (hrep : s.reported = []) (hc : c.buf = s.errCh.buf ++ [err]) :
    Waits ctxDone { s with reader := .finished, errCh := c, reported := s.reported ++ [err] } := by
  have htook : ∀ e, Took ctxDone s e → Took ctxDone
      { s with reader := .finished, errCh := c, reported := s.reported ++ [err] } e := by
    rintro e (⟨hd, he, hbuf⟩ | ⟨he, -⟩)
    · exact .inl ⟨hd, he, by simp [hc, hbuf]⟩
    · simp [hrep] at he
  unfold Waits at *
  dsimp only
  split at h
  · simp [hr] at h
  · exact ⟨by simp, by simp [hc, h.2]⟩
  · exact ⟨by simp, htook _ h.2⟩
  · exact ⟨by simp, h.2.1, htook _ h.2.2⟩
  · simp [hr] at h

/-- At most one report is sent, at the end of the reader goroutine. -/
theorem reported_cases {ctxDone : Bool} {s : State} (hloop : Loop ctxDone s)
    (hrep : s.reader ≠ .finished → s.reported = []) : s.reported = [] ∨
      ∃ err, s.reader = .finished ∧ s.reported = [err] ∧
        Ended ctxDone s.read s.readErr s.sent err := by
  by_cases hr : s.reader = .finished
  · unfold Loop at hloop
    rw [hr] at hloop
    obtain ⟨err, herr, hended⟩ := hloop
    exact .inr ⟨err, hr, herr, hended⟩
  · exact .inl (hrep hr)

/-- A step of the reader goroutine that neither starts nor ends it and reports nothing keeps the
invariants if it keeps what was sent right. -/
theorem Inv.reader_step {ctxDone : Bool} {s s' : State} (hs : Inv ctxDone s)
    (hr : s.reader ≠ .notStarted ∧ s.reader ≠ .finished) (hr' : s'.reader ≠ .notStarted)
    (hloop : Loop ctxDone s') (houter : s'.outer = s.outer) (hclosed : s'.closed = s.closed)
    (herr : s'.errCh = s.errCh) (hrep : s'.reported = s.reported) : Inv ctxDone s' where
  loop := hloop
  waits := hs.waits.congr hr hr' houter hclosed herr hrep
  reported := fun _ => hrep.trans (hs.reported hr.2)
  errCh := by
    rw [herr]
    exact hs.errCh

/-- **Every step keeps the invariants.** -/
theorem Step.inv {ctxDone : Bool} {s s' : State} {a : Act} (h : Step ctxDone s a s')
    (hs : Inv ctxDone s) : Inv ctxDone s' := by
  have ⟨hloop, hwaits, hrep, herr⟩ := hs
  cases h with
  | setup ho _ =>
    unfold Waits at hwaits
    rw [ho] at hwaits
    exact ⟨hloop, hwaits, hrep, herr⟩
  | setupFails err ho =>
    unfold Waits at hwaits
    rw [ho] at hwaits
    exact ⟨hloop, .inl ⟨hwaits.1, rfl, hwaits.2⟩, hrep, herr⟩
  | start ho _ =>
    unfold Waits at hwaits
    unfold Loop at hloop
    rw [ho] at hwaits
    rw [hwaits.1] at hloop
    obtain ⟨hread, hre, hsent⟩ := hloop
    have hempty := hrep (by simp [hwaits.1])
    refine ⟨⟨hre, ?_, ?_⟩, ⟨by simp, by simp [hwaits.2, hempty]⟩, fun _ => hempty, herr⟩
    · simp [hread]
    · simp [hread, hsent]
  | done ho hd =>
    unfold Waits at hwaits
    rw [ho] at hwaits
    exact ⟨hloop, ⟨hwaits.1, .inl ⟨hd, rfl, hwaits.2⟩⟩, hrep, herr⟩
  | recvErr ho hrecv =>
    unfold Waits at hwaits
    rw [ho] at hwaits
    obtain ⟨hbuf, hclosed⟩ := Chan.recv_some hrecv
    have hcap := Chan.cap_of_recv hrecv
    refine ⟨hloop, ⟨hwaits.1, .inr ?_⟩, hrep, hcap.trans herr.1, hclosed.trans herr.2⟩
    rw [hwaits.2] at hbuf
    rcases reported_cases hloop hrep with h0 | ⟨e, -, he, -⟩
    · simp [h0] at hbuf
    · rw [he] at hbuf
      obtain ⟨rfl, hnil⟩ := List.cons_eq_cons.1 hbuf
      exact ⟨he, hnil.symm⟩
  | close ho =>
    unfold Waits at hwaits
    rw [ho] at hwaits
    exact ⟨hloop, ⟨hwaits.1, rfl, hwaits.2⟩, hrep, herr⟩
  | wait ho hr =>
    unfold Waits at hwaits
    rw [ho] at hwaits
    exact ⟨hloop, .inr ⟨hr, hwaits.2.2⟩, hrep, herr⟩
  | readRecord rec hr _ =>
    have hloop' := loop_handle rec hr hloop
    exact hs.reader_step (by simp [hr]) (reader_handle s rec) hloop' rfl rfl rfl rfl
  | readFails e hr _ =>
    unfold Loop at hloop
    rw [hr] at hloop
    obtain ⟨-, hstate, hout⟩ := hloop
    exact hs.reader_step (by simp [hr]) (by simp) (.read rfl hstate hout) rfl rfl rfl rfl
  | readClosed hr _ =>
    unfold Loop at hloop
    rw [hr] at hloop
    obtain ⟨-, hstate, hout⟩ := hloop
    exact hs.reader_step (by simp [hr]) (by simp) (.read rfl hstate hout) rfl rfl rfl rfl
  | sendDone hr hd =>
    unfold Loop at hloop
    rw [hr] at hloop
    obtain ⟨hread, hstate, hout⟩ := hloop
    exact hs.reader_step (by simp [hr]) (by simp) (.done hd hread hstate hout) rfl rfl rfl rfl
  | send hr =>
    unfold Loop at hloop
    rw [hr] at hloop
    exact hs.reader_step (by simp [hr]) (by simp) hloop rfl rfl rfl rfl
  | report hr hsend =>
    unfold Loop at hloop
    rw [hr] at hloop
    have hempty := hrep (by simp [hr])
    refine ⟨⟨_, by simp [hempty], hloop⟩, ?_, fun h => absurd rfl h, ?_⟩
    · exact waits_report hwaits hr hempty (Chan.buf_of_send hsend)
    · exact ⟨(Chan.cap_of_send hsend).trans herr.1, (Chan.closed_of_send hsend).2⟩

/-! ## Runs -/

/-- `Run` with its context. -/
structure Call where
  ctxDone : Bool
  run : State

inductive Call.Step : Call → Call → Prop
  | cancel {c : Call} : Call.Step c { c with ctxDone := true }
  | run {c : Call} {a : Act} {s : State} : Detect.Step c.ctxDone c.run a s →
      Call.Step c { c with run := s }

/-- The states of the runs. -/
def Reachable (c : Call) : Prop := Relation.ReflTransGen Call.Step ⟨false, init⟩ c

/-- **Every reachable state meets the invariants.** -/
theorem reachable_inv {c : Call} (h : Reachable c) : Inv c.ctxDone c.run := by
  refine h.invariant (P := fun c => Inv c.ctxDone c.run) init_inv fun hstep hs => ?_
  cases hstep with
  | cancel => exact hs.cancel
  | run hrun => exact hrun.inv hs

/-- Once `Run` has returned, its reader goroutine has not been started or is at its end. -/
theorem Inv.reader_of_returned {ctxDone : Bool} {s : State} {err : Option GoString}
    (hs : Inv ctxDone s) (ho : s.outer = .returned err) :
    s.reader = .notStarted ∨ s.reader = .finished := by
  have hwaits := hs.waits
  unfold Waits at hwaits
  rw [ho] at hwaits
  exact hwaits.imp And.left And.left

/-- Once `Run` has returned it stays so, and nothing more is sent. -/
theorem Step.of_returned {ctxDone : Bool} {s s' : State} {a : Act} {err : Option GoString}
    (h : Step ctxDone s a s') (hs : Inv ctxDone s) (ho : s.outer = .returned err) :
    s'.outer = .returned err ∧ s'.sent = s.sent := by
  have hend := hs.reader_of_returned ho
  cases h with
  | setupFails _ h | setup h | start h | done h | recvErr h | close h | wait h =>
    rw [ho] at h
    cases h
  | readRecord _ h | readFails _ h | readClosed h | sendDone h | send h | report h =>
    rcases hend with hr | hr <;> · rw [h] at hr; cases hr

theorem sent_of_returned {c c' : Call} {err : Option GoString} (hc : Reachable c)
    (ho : c.run.outer = .returned err) (hrun : Relation.ReflTransGen Call.Step c c') :
    c'.run.outer = .returned err ∧ c'.run.sent = c.run.sent := by
  refine hrun.invariant_reached (P := fun c' => c'.run.outer = .returned err ∧
    c'.run.sent = c.run.sent) ⟨ho, rfl⟩ fun hrun hstep hs => ?_
  cases hstep with
  | cancel => exact hs
  | run h =>
    have hinv := reachable_inv (hc.trans hrun)
    obtain ⟨ho', hsent⟩ := h.of_returned hinv hs.1
    exact ⟨ho', hsent.trans hs.2⟩

theorem Ended.sent_prefix {ctxDone : Bool} {recs : List Record} {readErr : Option ReadError}
    {sent : List CameraEvent} {err : Option GoString} (h : Ended ctxDone recs readErr sent err) :
    sent <+: readLoop.out none recs := by
  cases h with
  | read _ _ ho => exact ho ▸ List.prefix_refl _
  | decode _ _ ho => exact ho ▸ List.prefix_refl _
  | done _ _ _ ho => exact ho ▸ List.prefix_append _ _

/-- What was sent is a prefix of what the sequential loop sends. -/
theorem Inv.sent_prefix {ctxDone : Bool} {s : State} (hs : Inv ctxDone s) :
    s.sent <+: readLoop.out none s.read := by
  have hloop := hs.loop
  unfold Loop at hloop
  split at hloop
  · rw [hloop.2.2]
    exact List.nil_prefix
  · exact hloop.2.2 ▸ List.prefix_refl _
  · exact hloop.2.2 ▸ List.prefix_append _ _
  · exact hloop.sent_prefix
  · obtain ⟨err, -, hended⟩ := hloop
    exact hended.sent_prefix

/-- A loop that was not cancelled has sent the image of its records, and reports an error exactly if
it ended by one. -/
theorem Ended.uncancelled {recs : List Record} {readErr : Option ReadError}
    {sent : List CameraEvent} {err : Option GoString} (h : Ended false recs readErr sent err) :
    sent = image recs ∧ ((∃ rec ∈ recs, ¬ Decodes rec) ∨ readErr ≠ none) ∧
      (err ≠ none ↔ (∃ rec ∈ recs, ¬ Decodes rec) ∨ ∃ e, readErr = some (.other e)) := by
  obtain ⟨hout, hstate⟩ := readLoop_image recs
  cases h with
  | @read e he hs ho =>
    have hall := hstate.1 hs
    refine ⟨ho.symm.trans hout, .inr (by simp [he]), ?_⟩
    cases e with
    | errClosed => simpa [he, ReadError.report] using hall
    | other e => simp [he, ReadError.report]
  | @decode err he hs ho =>
    have hbad : ∃ rec ∈ recs, ¬ Decodes rec := by
      by_contra hno
      push Not at hno
      rw [hstate.2 hno] at hs
      cases hs
    exact ⟨ho.symm.trans hout, .inl hbad, iff_of_true (by simp) (.inl hbad)⟩
  | done hc => cases hc

/-- `Run` that has returned from its started loop waited for the reader goroutine. -/
theorem Inv.of_returned {ctxDone : Bool} {s : State} {err : Option GoString} (hs : Inv ctxDone s)
    (ho : s.outer = .returned err) (hr : s.reader ≠ .notStarted) :
    Took ctxDone s err ∧ ∃ e, s.reported = [e] ∧ Ended ctxDone s.read s.readErr s.sent e := by
  have hwaits := hs.waits
  have hloop := hs.loop
  unfold Waits at hwaits
  rw [ho] at hwaits
  rcases hwaits with h | ⟨hfin, htook⟩
  · exact absurd h.1 hr
  · unfold Loop at hloop
    rw [hfin] at hloop
    exact ⟨htook, hloop⟩

theorem Took.buf_eq_nil {ctxDone : Bool} {s : State} {err : Option GoString}
    (h : Took ctxDone s err) (hrep : s.reported = []) : s.errCh.buf = [] := by
  rcases h with ⟨-, -, hbuf⟩ | ⟨-, hbuf⟩
  · exact hbuf.trans hrep
  · exact hbuf

/-- The report does not block. -/
theorem Inv.exists_send {ctxDone : Bool} {s : State} {err : Option GoString} (hs : Inv ctxDone s)
    (hr : s.reader = .reporting err) : ∃ ch, s.errCh.send err = some ch := by
  have hempty := hs.reported (by simp [hr])
  have hbuf : s.errCh.buf = [] := by
    have hwaits := hs.waits
    unfold Waits at hwaits
    split at hwaits
    · exact hwaits.2
    · exact hwaits.2.trans hempty
    · exact hwaits.2.buf_eq_nil hempty
    · exact hwaits.2.2.buf_eq_nil hempty
    · rcases hwaits with h | ⟨-, h⟩
      · exact h.2.2
      · exact h.buf_eq_nil hempty
  exact Chan.exists_send hs.errCh.2 (by simp [hbuf, hs.errCh.1]) err

/-- **The read loop delivers faithfully.** In every reachable state the events sent are a prefix of
the image of the records, whatever further records follow. If `Run` returns from its started loop
and was not cancelled, the loop ended by a failed read or a record it could not decode, the whole
image was sent, and the error is not nil exactly if it was an undecodable record or a read error
other than `ErrClosed`. The reader goroutine sends at most one report, exactly one if `Run` returns,
and has room in `errCh` for it. Once `Run` has returned, nothing more is sent. -/
theorem read_loop_delivers (c : Call) (hc : Reachable c) :
    (∀ rest, c.run.sent <+: image (c.run.read ++ rest)) ∧
    (∀ err, c.ctxDone = false → c.run.outer = .returned err → c.run.reader ≠ .notStarted →
      c.run.sent = image c.run.read ∧
      ((∃ rec ∈ c.run.read, ¬ Decodes rec) ∨ c.run.readErr ≠ none) ∧
      (err ≠ none ↔ (∃ rec ∈ c.run.read, ¬ Decodes rec) ∨
        ∃ e, c.run.readErr = some (.other e))) ∧
    c.run.reported.length ≤ 1 ∧
    (∀ err, c.run.outer = .returned err → c.run.reader ≠ .notStarted →
      c.run.reported.length = 1) ∧
    (∀ err, c.run.reader = .reporting err → ∃ ch, c.run.errCh.send err = some ch) ∧
    (∀ err, c.run.outer = .returned err → ∀ c', Relation.ReflTransGen Call.Step c c' →
      c'.run.sent = c.run.sent) := by
  have hinv := reachable_inv hc
  refine ⟨fun rest => ?_, fun err hd ho hr => ?_, ?_, fun err ho hr => ?_,
    fun err => hinv.exists_send, fun err ho c' hrun => (sent_of_returned hc ho hrun).2⟩
  · rw [← (readLoop_image _).1]
    exact hinv.sent_prefix.trans (readLoop.out_prefix none (List.prefix_append _ _))
  · rw [hd] at hinv
    obtain ⟨htook, e, he, hended⟩ := hinv.of_returned ho hr
    rcases htook with ⟨hc, -⟩ | ⟨herr, -⟩
    · cases hc
    · obtain rfl : e = err := by simpa [he] using herr
      exact hended.uncancelled
  · rcases reported_cases hinv.loop hinv.reported with h | ⟨err, -, h, -⟩ <;> simp [h]
  · obtain ⟨-, e, he, -⟩ := hinv.of_returned ho hr
    simp [he]

/-- A detector that sends an event and fails on the record after it. -/
theorem sent_before_failure : ∃ c, Reachable c ∧ c.ctxDone = false ∧ c.run.read.length = 2 ∧
    c.run.sent = image c.run.read ∧ c.run.reported.length = 1 := by
  have h0 : Reachable ⟨false, init⟩ := .refl
  have h1 := h0.tail (.run (.setup rfl rfl))
  have h2 := h1.tail (.run (.setup rfl rfl))
  have h3 := h2.tail (.run (.setup rfl rfl))
  have h4 := h3.tail (.run (.setup rfl rfl))
  have h5 := h4.tail (.run (.start rfl rfl))
  have h6 := h5.tail (.run (.readRecord ⟨.replicate 44 0, .alive⟩ rfl rfl))
  have h7 := h6.tail (.run (.send rfl))
  have h8 := h7.tail (.run (.readRecord ⟨[], .alive⟩ rfl rfl))
  have h9 := h8.tail (.run (.report rfl rfl))
  have h10 := h9.tail (.run (.recvErr rfl rfl))
  have h11 := h10.tail (.run (.close rfl))
  have h12 := h11.tail (.run (.wait rfl rfl))
  have hloop := read_loop_delivers _ h12
  exact ⟨_, h12, rfl, rfl, (hloop.2.1 _ rfl rfl (by simp)).1, hloop.2.2.2.1 _ rfl (by simp)⟩

end Detect
