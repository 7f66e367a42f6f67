import CameraCoordinator.Pipeline.Records

/-!
# The daemon's own releases

For every event it receives, the coordinator opens the device to query its capabilities and closes
it again, and the close fires the release probe with the daemon's own TGID. `Caused D` is a firing
next to a daemon of TGID `D`: one with a cause outside, or such a release, at any time and on any
device. The daemon never streams, so its TGID is never stored in `streaming_pid` (`NotStored`), and
its releases go unnoticed (`feedback_free`).
-/

set_option autoImplicit false

namespace Pipeline

open Detect (KillResult)
open Coord (GoError)

/-- A firing while a daemon of TGID `D` is running. -/
inductive Caused (D : UInt32)
  | outside (f : Bpf.Firing) (notStreaming : f.probe = .streamon → f.pid ≠ D)
  | daemon (f : Bpf.Firing) (release : f.probe = .fopRelease) (own : f.pid = D)

variable {D : UInt32}

def Caused.firing : Caused D → Bpf.Firing
  | .outside f _ => f
  | .daemon f _ _ => f

def Caused.isOutside : Caused D → Bool
  | .outside _ _ => true
  | .daemon _ _ _ => false

/-- All firings. -/
def firings (t : List (Caused D)) : List Bpf.Firing := t.map Caused.firing

/-- The firings without the daemon's own. -/
def outsideFirings (t : List (Caused D)) : List Bpf.Firing :=
  (t.filter Caused.isOutside).map Caused.firing

/-- `D` is not a value of `streaming_pid`. -/
def NotStored (D : UInt32) (m : Bpf.StreamingPid) : Prop := ∀ k, m.lookup k ≠ some D

theorem NotStored.empty (D : UInt32) : NotStored D ∅ := by
  intro k
  simp

theorem NotStored.delete {m : Bpf.StreamingPid} (h : NotStored D m) (k : Bpf.DeviceNameKey) :
    NotStored D (m.delete k) := by
  intro k'
  rw [BoundedMap.lookup_delete]
  split
  · simp
  · exact h k'

theorem NotStored.set {m : Bpf.StreamingPid} (h : NotStored D m) (k : Bpf.DeviceNameKey)
    {pid : UInt32} (hpid : pid ≠ D) : NotStored D (m.set k pid) := by
  intro k'
  rw [BoundedMap.lookup_set]
  split
  · simpa using hpid
  · exact h k'

/-- Only a streamon stores a pid. -/
theorem notStored_step {m : Bpf.StreamingPid} {f : Bpf.Firing}
    (hf : f.probe = .streamon → f.pid ≠ D) (h : NotStored D m) :
    NotStored D (Bpf.run.step m f).1 := by
  cases hk : f.key with
  | none =>
    rw [Bpf.step_of_key_none m hk]
    exact h
  | some k =>
    rcases Bpf.step_of_key m hk with
        ⟨hp, hs, -⟩ | ⟨-, hs, -⟩ | ⟨-, -, hs, -⟩ | ⟨-, -, hs⟩ <;> rw [hs]
    · exact h.set k (hf hp)
    · exact h.delete k
    · exact h.delete k
    · exact h

/-- A release by a process that is not stored does nothing. -/
theorem release_silent {m : Bpf.StreamingPid} {f : Bpf.Firing} (hp : f.probe = .fopRelease)
    (hpid : f.pid = D) (h : NotStored D m) : Bpf.run.step m f = (m, []) := by
  cases hk : f.key with
  | none => exact Bpf.step_of_key_none m hk
  | some k =>
    rcases Bpf.step_release m hp hk with ⟨hl, -⟩ | ⟨-, hs⟩
    · exact absurd (hpid ▸ hl) (h k)
    · exact hs

/-- What an outside firing keeps, and what the daemon's firings do not do. -/
theorem caused_step (m : Bpf.StreamingPid) (c : Caused D) (h : NotStored D m) :
    (c.isOutside = true → NotStored D (Bpf.run.step m c.firing).1) ∧
    (c.isOutside = false → Bpf.run.step m c.firing = (m, [])) := by
  cases c with
  | outside f hf =>
    refine ⟨fun _ => notStored_step hf h, fun ho => ?_⟩
    cases ho
  | daemon f hp hpid =>
    refine ⟨fun ho => ?_, fun _ => release_silent hp hpid h⟩
    cases ho

theorem streamingPid_firings (t : List (Caused D)) :
    Bpf.streamingPid (firings t) = Bpf.streamingPid (outsideFirings t) := by
  unfold Bpf.streamingPid firings outsideFirings
  rw [Mealy.state_map, Mealy.state_map]
  exact (Mealy.state_filter (m := Bpf.run.contramap Caused.firing)
    (fun m c ho h => (caused_step m c h).1 ho) (fun m c ho h => (caused_step m c h).2 ho)
    (NotStored.empty D) t).symm

theorem submitted_firings (t : List (Caused D)) :
    Bpf.submitted (firings t) = Bpf.submitted (outsideFirings t) := by
  unfold Bpf.submitted firings outsideFirings
  rw [Mealy.out_map, Mealy.out_map]
  exact (Mealy.out_filter (m := Bpf.run.contramap Caused.firing)
    (fun m c ho h => (caused_step m c h).1 ho) (fun m c ho h => (caused_step m c h).2 ho)
    (NotStored.empty D) t).symm

/-- **The daemon does not feed itself.** However many releases of its own are put wherever among the
outside firings, `streaming_pid` is at every point what it is without them, and so are the records
and the broadcasts; there are never more records than outside firings. -/
theorem feedback_free (t : List (Caused D)) (kill : Nat → KillResult)
    (query : Nat → Except GoError V4L2Capability) :
    Bpf.submitted (firings t) = Bpf.submitted (outsideFirings t) ∧
    (∀ p, p <+: t → Bpf.streamingPid (firings p) = Bpf.streamingPid (outsideFirings p)) ∧
    Coord.broadcasts (drained kill query (firings t)) =
      Coord.broadcasts (drained kill query (outsideFirings t)) ∧
    (Bpf.submitted (firings t)).length ≤ (outsideFirings t).length := by
  refine ⟨submitted_firings t, fun p _ => streamingPid_firings p, ?_, ?_⟩
  · unfold drained
    rw [submitted_firings]
  · rw [submitted_firings]
    exact Bpf.run.out_length_le Bpf.length_step_le ∅ _

end Pipeline
