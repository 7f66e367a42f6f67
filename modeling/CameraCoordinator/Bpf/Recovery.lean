import CameraCoordinator.Bpf.Dropped

/-!
# Recovery from failures

A failed reserve or a full `streaming_pid` may leave a device reported on without an entry or the
other way round. Both are state that the next firing on the device overwrites: whatever failed
before, from the first firing on that emits and succeeds (`Effective`, `Sound`), entry and report
agree, for as long as the firings on this device succeed (`agrees_after`). Failures on other devices
do not matter.
-/

set_option autoImplicit false

namespace Bpf

/-- The device has an entry exactly if it is reported on. -/
def Agrees (t : List Firing) (k : DeviceNameKey) : Prop :=
  k ∈ streamingPid t ↔ Reporting t k.device

/-- The firing succeeds: it gets a slot, and a streamon has room for its entry. -/
def Sound (t : List Firing) (f : Firing) (k : DeviceNameKey) : Prop :=
  f.reserve.isSome ∧ (f.probe = .streamon → (streamingPid t).Room k)

/-- The firing emits, if it gets a slot: a release finds its own pid stored. -/
def Effective (t : List Firing) (f : Firing) (k : DeviceNameKey) : Prop :=
  f.probe = .fopRelease → (streamingPid t).lookup k = some f.pid

section
variable {t : List Firing} {f : Firing} {k : DeviceNameKey}

/-- After a firing that emits and succeeds its device agrees, whatever was before. -/
theorem agrees_of_effective (hk : f.key = some k) (hs : Sound t f k) (he : Effective t f k) :
    Agrees (t ++ [f]) k := by
  have hne : cameraEventTypeStreamOff ≠ cameraEventTypeStreamOn := by decide
  obtain ⟨hres, hroom⟩ := hs
  unfold Agrees
  rw [BoundedMap.mem_iff, streamingPid_snoc]
  rcases step_of_key (streamingPid t) hk with
      ⟨hp, hstep, hem⟩ | ⟨-, hstep, hem⟩ | ⟨-, -, hstep, hem⟩ | ⟨hp, hl, -⟩
  · rw [reporting_snoc hem, hstep]
    simp [hres, BoundedMap.lookup_set, hroom hp]
  · rw [reporting_snoc hem, hstep]
    simp [hres, BoundedMap.lookup_delete, hne]
  · rw [reporting_snoc hem, hstep]
    simp [hres, BoundedMap.lookup_delete, hne]
  · exact absurd (he hp) hl

/-- A release that does not find its pid changes nothing. -/
theorem step_of_not_effective (hk : f.key = some k) (he : ¬ Effective t f k) :
    run.step (streamingPid t) f = (streamingPid t, []) := by
  unfold Effective at he
  push Not at he
  rcases step_release (streamingPid t) he.1 hk with ⟨hl, -⟩ | ⟨-, hs⟩
  · exact absurd hl he.2
  · exact hs

theorem Agrees.of_quiet (h : Agrees t k) (hq : run.step (streamingPid t) f = (streamingPid t, [])) :
    Agrees (t ++ [f]) k := by
  unfold Agrees Reporting at *
  rw [streamingPid_snoc, submitted_snoc, submits, hq, List.append_nil]
  exact h

theorem Agrees.of_other (h : Agrees t k) (hk : f.key ≠ some k) : Agrees (t ++ [f]) k := by
  unfold Agrees at *
  rw [reporting_snoc_ne hk, BoundedMap.mem_iff, streamingPid_snoc, lookup_step_ne hk,
    ← BoundedMap.mem_iff]
  exact h

/-- The firings that do not fail on the device keep it agreeing. -/
theorem Agrees.snoc (h : Agrees t k) (hs : f.key = some k → Sound t f k) :
    Agrees (t ++ [f]) k := by
  by_cases hk : f.key = some k
  · by_cases he : Effective t f k
    · exact agrees_of_effective hk (hs hk) he
    · exact h.of_quiet (step_of_not_effective hk he)
  · exact h.of_other hk

theorem Agrees.append (h : Agrees t k) {r : List Firing}
    (hr : ∀ l g q, r = l ++ g :: q → g.key = some k → Sound (t ++ l) g k) : Agrees (t ++ r) k := by
  induction r using List.reverseRecOn with
  | nil => simpa using h
  | append_singleton r g ih =>
    rw [← List.append_assoc]
    refine (ih fun l g' q hq => hr l g' (q ++ [g]) (by simp [hq])).snoc fun hg => ?_
    exact hr r g [] rfl hg

end

/-- **One firing recovers its device.** After any firings with any failures, on this device and
others, a firing on the device that emits and succeeds makes entry and report agree, and they agree
for as long as the firings on the device succeed, whatever fails on the others. -/
theorem agrees_after (t : List Firing) (f : Firing) (r : List Firing) (k : DeviceNameKey)
    (hk : f.key = some k) (hs : Sound t f k) (he : Effective t f k)
    (hr : ∀ l g q, r = l ++ g :: q → g.key = some k → Sound (t ++ [f] ++ l) g k) :
    Agrees (t ++ [f] ++ r) k :=
  (agrees_of_effective hk hs he).append hr

/-- A streamoff finds the ring buffer full, and the device stays reported on; the next time it is
turned off it is reported off. -/
theorem agrees_after_lost_off :
    ¬ Agrees [onVideo0 .streamon 7, { onVideo0 .streamoff 7 with reserve := none }] video0 ∧
    Agrees [onVideo0 .streamon 7, { onVideo0 .streamoff 7 with reserve := none },
      onVideo0 .streamoff 7] video0 := by
  refine ⟨fun h => absurd (h.2 (by decide)) (by decide), ?_⟩
  refine agrees_after [_, _] (onVideo0 .streamoff 7) [] video0 rfl ⟨by decide, by simp [onVideo0]⟩
    (by simp [Effective, onVideo0]) fun l g q h => by simp at h

end Bpf
