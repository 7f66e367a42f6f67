import CameraCoordinator.Bpf.Guard

/-!
# Dropped events and the guard

A probe does two things, submit an event and update `streaming_pid`, and ignores whether either
succeeds. `Reporting t v`: the last event submitted for the device `v` is a STREAM_ON. Without
failures the devices reported on are exactly those with an entry (`mem_iff_reporting`).

`Armed t` is the half of this that a lost event may not break: a device reported on has an entry, so
that a release can still report it off. `armed_iff`: it holds throughout a run exactly if no firing
does only one half of its work (`Secure`): a streamon that submits but finds the map full, or the
streamoff or release of a device reported on that gets no slot and deletes the entry nevertheless.
-/

set_option autoImplicit false

namespace Bpf

/-! ## The last event of a device -/

/-- The type of the last event about device `v`. -/
def lastType (v : List UInt8) (es : List CameraEvent) : Option UInt32 :=
  (es.filter fun e => e.device == v).getLast?.map (·.eventType)

/-- The last event submitted for the device is a STREAM_ON. -/
def Reporting (t : List Firing) (v : List UInt8) : Prop :=
  lastType v (submitted t) = some cameraEventTypeStreamOn

instance (t : List Firing) (v : List UInt8) : Decidable (Reporting t v) :=
  inferInstanceAs (Decidable (_ = _))

/-- Every device reported on has an entry. -/
def Armed (t : List Firing) : Prop := ∀ v, Reporting t v → ∃ k ∈ streamingPid t, k.device = v

theorem lastType_append_of_ne {v : List UInt8} {es es' : List CameraEvent}
    (h : ∀ e ∈ es', e.device ≠ v) : lastType v (es ++ es') = lastType v es := by
  have hnil : es'.filter (fun e => e.device == v) = [] :=
    List.filter_eq_nil_iff.2 fun e he => by simpa using h e he
  simp [lastType, List.filter_append, hnil]

theorem lastType_snoc {v : List UInt8} {e : CameraEvent} (es : List CameraEvent)
    (h : e.device = v) : lastType v (es ++ [e]) = some e.eventType := by
  simp [lastType, List.filter_append, h]

theorem not_reporting_nil (v : List UInt8) : ¬ Reporting [] v := by simp [Reporting, lastType]

/-- A firing on another device does not change what is reported. -/
theorem reporting_snoc_ne {t : List Firing} {f : Firing} {k : DeviceNameKey}
    (hk : f.key ≠ some k) : Reporting (t ++ [f]) k.device ↔ Reporting t k.device := by
  have hne : ∀ e ∈ submits t f, e.device ≠ k.device := fun e he => device_ne_of_mem_step hk he
  unfold Reporting
  rw [submitted_snoc, lastType_append_of_ne hne]

/-- After a firing that emits, its device is reported as the emitted type says; a firing without a
slot changes nothing. -/
theorem reporting_snoc {t : List Firing} {f : Firing} {k : DeviceNameKey} {type source : UInt32}
    (h : Emits f k type source (submits t f)) : Reporting (t ++ [f]) k.device ↔
      if f.reserve.isSome then type = cameraEventTypeStreamOn else Reporting t k.device := by
  unfold Reporting
  rw [submitted_snoc]
  rcases h with ⟨hr, he⟩ | ⟨e, hr, he, hem⟩
  · simp [hr, he]
  · rw [he, lastType_snoc _ hem.device, hem.eventType, if_pos hr, Option.some.injEq]

/-- Only devices with a key are reported on. -/
theorem Reporting.exists_key {t : List Firing} {v : List UInt8} (h : Reporting t v) :
    ∃ k : DeviceNameKey, k.device = v := by
  induction t using List.reverseRecOn with
  | nil => exact absurd h (not_reporting_nil v)
  | append_singleton t f ih =>
    by_cases hf : ∃ k, f.key = some k ∧ k.device = v
    · obtain ⟨k, -, hk⟩ := hf
      exact ⟨k, hk⟩
    · refine ih ?_
      unfold Reporting at h ⊢
      rwa [submitted_snoc, lastType_append_of_ne fun e he hd => ?_] at h
      obtain ⟨k, hk, hdk⟩ := device_of_mem_step he
      exact hf ⟨k, hk, hdk ▸ hd⟩

theorem armed_iff_keys {t : List Firing} :
    Armed t ↔ ∀ k : DeviceNameKey, Reporting t k.device → k ∈ streamingPid t := by
  constructor
  · intro h k hk
    obtain ⟨k', hk', hd⟩ := h k.device hk
    exact device_inj.1 hd ▸ hk'
  · intro h v hv
    obtain ⟨k, rfl⟩ := hv.exists_key
    exact ⟨k, h k hv, rfl⟩

/-! ## Without failures -/

/-- **Without failures, the devices reported on are those with an entry.** -/
theorem mem_iff_reporting {t : List Firing} (hun : Unfailing t) (k : DeviceNameKey) :
    k ∈ streamingPid t ↔ Reporting t k.device := by
  have hne : cameraEventTypeStreamOff ≠ cameraEventTypeStreamOn := by decide
  induction t using List.reverseRecOn with
  | nil => simp [BoundedMap.mem_iff, not_reporting_nil]
  | append_singleton t f ih =>
    have ih := ih (hun.of_prefix (List.prefix_append t [f]))
    have hres : f.reserve.isSome := hun.reserved f (by simp)
    by_cases hk : f.key = some k
    · rw [BoundedMap.mem_iff, streamingPid_snoc]
      rcases step_of_key (streamingPid t) hk with
          ⟨-, hs, hem⟩ | ⟨-, hs, hem⟩ | ⟨-, -, hs, hem⟩ | ⟨-, -, hs⟩
      · rw [reporting_snoc hem, hs]
        simp [hres, BoundedMap.lookup_set, hun.room hk]
      · rw [reporting_snoc hem, hs]
        simp [hres, BoundedMap.lookup_delete, hne]
      · rw [reporting_snoc hem, hs]
        simp [hres, BoundedMap.lookup_delete, hne]
      · have hsame : Reporting (t ++ [f]) k.device ↔ Reporting t k.device := by
          simp [Reporting, submitted_snoc, submits, hs]
        rw [hs, ← BoundedMap.mem_iff, hsame]
        exact ih
    · rw [BoundedMap.mem_iff, streamingPid_snoc, lookup_step_ne hk, ← BoundedMap.mem_iff,
        reporting_snoc_ne hk]
      exact ih

theorem reporting_iff_entry {t : List Firing} (hun : Unfailing t) (v : List UInt8) :
    Reporting t v ↔ ∃ k ∈ streamingPid t, k.device = v := by
  constructor
  · intro h
    obtain ⟨k, rfl⟩ := h.exists_key
    exact ⟨k, (mem_iff_reporting hun k).2 h, rfl⟩
  · rintro ⟨k, hk, rfl⟩
    exact (mem_iff_reporting hun k).1 hk

/-! ## With failures -/

/-- The firing does not stop halfway after `t`: a streamon that submits is recorded, and what takes
away the entry of a device reported on submits. -/
def Secure (t : List Firing) (f : Firing) : Prop :=
  ∀ k, f.key = some k →
    match f.probe with
    | .streamon => f.reserve.isSome → (streamingPid t).Room k
    | .streamoff => Reporting t k.device → f.reserve.isSome
    | .fopRelease =>
      Reporting t k.device → (streamingPid t).lookup k = some f.pid → f.reserve.isSome

/-- Whether a firing keeps the guard armed is a matter of its own device. -/
theorem armed_snoc_iff_own {t : List Firing} {f : Firing} (ht : Armed t) : Armed (t ++ [f]) ↔
    ∀ k, f.key = some k → Reporting (t ++ [f]) k.device → k ∈ streamingPid (t ++ [f]) := by
  rw [armed_iff_keys]
  refine ⟨fun h k _ => h k, fun h k hrep => ?_⟩
  by_cases hk : f.key = some k
  · exact h k hk hrep
  · rw [BoundedMap.mem_iff, streamingPid_snoc, lookup_step_ne hk, ← BoundedMap.mem_iff]
    exact armed_iff_keys.1 ht k ((reporting_snoc_ne hk).1 hrep)

/-- A firing keeps the guard armed exactly if it does not stop halfway. -/
theorem armed_snoc {t : List Firing} {f : Firing} (ht : Armed t) :
    Armed (t ++ [f]) ↔ Secure t f := by
  have hne : cameraEventTypeStreamOff ≠ cameraEventTypeStreamOn := by decide
  rw [armed_snoc_iff_own ht]
  unfold Secure
  refine forall_congr' fun k => forall_congr' fun hk => ?_
  have htk := armed_iff_keys.1 ht k
  rw [BoundedMap.mem_iff] at htk
  rw [BoundedMap.mem_iff, streamingPid_snoc]
  rcases step_of_key (streamingPid t) hk with
      ⟨hp, hs, hem⟩ | ⟨hp, hs, hem⟩ | ⟨hp, hl, hs, hem⟩ | ⟨hp, hl, hs⟩
  · rw [reporting_snoc hem, hs, hp]
    by_cases hr : f.reserve.isSome
    · by_cases hroom : (streamingPid t).Room k
      · simp [hr, hroom, BoundedMap.lookup_set]
      · have hnone : (streamingPid t).lookup k = none :=
          BoundedMap.not_mem_iff.1 fun hm => hroom (.inl hm)
        simp [hr, hroom, BoundedMap.lookup_set, hnone]
    · by_cases hroom : (streamingPid t).Room k
      · simp [hr, hroom, BoundedMap.lookup_set]
      · simpa [hr, hroom, BoundedMap.lookup_set] using htk
  · rw [reporting_snoc hem, hs, hp]
    by_cases hr : f.reserve.isSome <;> simp [hr, BoundedMap.lookup_delete, hne]
  · rw [reporting_snoc hem, hs, hp]
    by_cases hr : f.reserve.isSome <;> simp [hr, BoundedMap.lookup_delete, hne, hl]
  · have hsame : Reporting (t ++ [f]) k.device ↔ Reporting t k.device := by
      simp [Reporting, submitted_snoc, submits, hs]
    rw [hs, hsame, hp]
    exact iff_of_true htk fun _ hl' => absurd hl' hl

/-- **When the guard stays armed.** Whatever fails, a device reported on has an entry at every point
of a run exactly if no firing of the run stops halfway. -/
theorem armed_iff (t : List Firing) :
    (∀ p, p <+: t → Armed p) ↔ ∀ l f r, t = l ++ f :: r → Secure l f :=
  Mealy.forall_prefix_iff (fun v hv => absurd hv (not_reporting_nil v))
    fun _ _ _ ht => armed_snoc ht

/-- The streamoff finds the ring buffer full, and still deletes the entry. -/
theorem dropped_off_disarms :
    ¬ Armed [onVideo0 .streamon 7, { onVideo0 .streamoff 7 with reserve := none }] := by
  intro h
  exact absurd (armed_iff_keys.1 h video0 (by decide)) (by decide)

end Bpf
