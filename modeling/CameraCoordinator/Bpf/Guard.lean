import CameraCoordinator.Bpf.Probes

/-!
# The guard of the release probe

`streaming_pid` decides whether a release emits. Over any run without failures (`Unfailing`) its
entry for a device is the pid of the last streamon, unless a streamoff or an emitting release came
after it (`lookup_eq_owner`), so a release emits exactly if the last of these firings is a streamon
of its own process (`release_submits_iff`).

`releaseOffs_le`: whatever fails, the releases after a point emit at most once until the next
streamon, and only if the device had an entry. `foreign_firing`: processes other than the streamer
cannot touch the device's entry, except by a streamoff.
-/

set_option autoImplicit false

namespace Bpf

/-! ## Runs without failures -/

/-- The devices the firings are about. -/
def deviceKeys (t : List Firing) : Finset DeviceNameKey := (t.filterMap Firing.key).toFinset

/-- Every reserve succeeds, and there are no more devices than `streaming_pid` has room for. -/
structure Unfailing (t : List Firing) : Prop where
  reserved : ∀ f ∈ t, f.reserve.isSome
  keys : (deviceKeys t).card ≤ 64

theorem mem_deviceKeys {t : List Firing} {k : DeviceNameKey} :
    k ∈ deviceKeys t ↔ ∃ f ∈ t, f.key = some k := by simp [deviceKeys]

theorem deviceKeys_mono {l t : List Firing} (hp : l <+: t) : deviceKeys l ⊆ deviceKeys t := by
  intro k hk
  obtain ⟨f, hf, hfk⟩ := mem_deviceKeys.1 hk
  exact mem_deviceKeys.2 ⟨f, hp.subset hf, hfk⟩

theorem Unfailing.of_prefix {l t : List Firing} (h : Unfailing t) (hp : l <+: t) : Unfailing l :=
  ⟨fun f hf => h.reserved f (hp.subset hf), (Finset.card_le_card (deviceKeys_mono hp)).trans h.keys⟩

theorem Unfailing.of_length {t : List Firing} (hres : ∀ f ∈ t, f.reserve.isSome)
    (hlen : t.length ≤ 64) : Unfailing t :=
  ⟨hres, ((List.toFinset_card_le _).trans (List.length_filterMap_le _ _)).trans hlen⟩

theorem mem_deviceKeys_of_mem {t : List Firing} {k : DeviceNameKey} (hk : k ∈ streamingPid t) :
    k ∈ deviceKeys t := by
  induction t using List.reverseRecOn with
  | nil => simp [BoundedMap.mem_iff] at hk
  | append_singleton t f ih =>
    by_cases hf : f.key = some k
    · exact mem_deviceKeys.2 ⟨f, by simp, hf⟩
    · rw [BoundedMap.mem_iff, streamingPid_snoc, lookup_step_ne hf, ← BoundedMap.mem_iff] at hk
      exact deviceKeys_mono (List.prefix_append t [f]) (ih hk)

/-- Without failures there is room for the device of the next firing. -/
theorem Unfailing.room {t : List Firing} {f : Firing} {k : DeviceNameKey}
    (h : Unfailing (t ++ [f])) (hk : f.key = some k) : (streamingPid t).Room k :=
  BoundedMap.room_of_subset
    (fun _ hk' => deviceKeys_mono (List.prefix_append t [f]) (mem_deviceKeys_of_mem hk'))
    (mem_deviceKeys.2 ⟨f, by simp, hk⟩) h.keys

/-! ## Who owns the entry -/

/-- The streamons and streamoffs of a device and the releases that emit for it, in order. -/
def relevant (k : DeviceNameKey) : List Firing → List Firing :=
  (Mealy.ofHist fun t f =>
    if f.key = some k ∧ (f.probe ≠ .fopRelease ∨ submits t f ≠ []) then [f] else []).out []

theorem relevant_snoc (k : DeviceNameKey) (t : List Firing) (f : Firing) :
    relevant k (t ++ [f]) = relevant k t ++
      if f.key = some k ∧ (f.probe ≠ .fopRelease ∨ submits t f ≠ []) then [f] else [] :=
  Mealy.ofHist_out_snoc _ t f

theorem mem_relevant {k : DeviceNameKey} {t : List Firing} {f : Firing} (h : f ∈ relevant k t) :
    f ∈ t ∧ f.key = some k := by
  induction t using List.reverseRecOn with
  | nil => cases h
  | append_singleton t g ih =>
    rw [relevant_snoc, List.mem_append] at h
    rcases h with h | h
    · exact ⟨List.mem_append_left _ (ih h).1, (ih h).2⟩
    · split at h
      · rename_i hg
        rw [List.mem_singleton] at h
        subst h
        exact ⟨by simp, hg.1⟩
      · cases h

/-- The process whose streamon is the last of the relevant firings. -/
def owner (k : DeviceNameKey) (t : List Firing) : Option UInt32 :=
  (relevant k t).getLast?.bind fun f => if f.probe = .streamon then some f.pid else none

theorem owner_eq_some {k : DeviceNameKey} {t : List Firing} {p : UInt32} :
    owner k t = some p ↔
      ∃ g, (relevant k t).getLast? = some g ∧ g.probe = .streamon ∧ g.pid = p := by
  simp [owner, Option.bind_eq_some_iff]

theorem owner_snoc_ne {k : DeviceNameKey} {t : List Firing} {f : Firing} (hk : f.key ≠ some k) :
    owner k (t ++ [f]) = owner k t := by simp [owner, relevant_snoc, hk]

/-- **The stored pid is the owner's.** -/
theorem lookup_eq_owner {t : List Firing} (hun : Unfailing t) (k : DeviceNameKey) :
    (streamingPid t).lookup k = owner k t := by
  induction t using List.reverseRecOn with
  | nil => simp [owner, relevant]
  | append_singleton t f ih =>
    have ih := ih (hun.of_prefix (List.prefix_append t [f]))
    have hres : f.reserve.isSome := hun.reserved f (by simp)
    rw [streamingPid_snoc]
    by_cases hk : f.key = some k
    · have hroom := hun.room hk
      rcases step_of_key (streamingPid t) hk with
          ⟨hp, hs, -⟩ | ⟨hp, hs, -⟩ | ⟨hp, -, hs, hem⟩ | ⟨hp, -, hs⟩
      · simp [owner, relevant_snoc, hk, hp, hs, BoundedMap.lookup_set, hroom]
      · simp [owner, relevant_snoc, hk, hp, hs, BoundedMap.lookup_delete]
      · obtain ⟨e, he, -⟩ := hem.of_isSome hres
        simp [owner, relevant_snoc, hk, hp, hs, submits, he, BoundedMap.lookup_delete]
      · rw [hs, ih]
        simp [owner, relevant_snoc, hp, submits, hs]
    · rw [lookup_step_ne hk, owner_snoc_ne hk, ih]

/-! ## Releases -/

/-- The STREAM_OFF events about `v` that come from releases. -/
def releaseOffs (v : List UInt8) (es : List CameraEvent) : List CameraEvent :=
  es.filter fun e => e.eventType == cameraEventTypeStreamOff &&
    (e.source == cameraEventSourceFopRelease && e.device == v)

/-- A release emits exactly if the stored pid is its own. -/
theorem release_emits_iff {t : List Firing} {f : Firing} {k : DeviceNameKey}
    (hp : f.probe = .fopRelease) (hk : f.key = some k) (hres : f.reserve.isSome) :
    releaseOffs k.device (submits t f) ≠ [] ↔ (streamingPid t).lookup k = some f.pid := by
  unfold submits
  rcases step_release (streamingPid t) hp hk with ⟨hl, -, hem⟩ | ⟨hl, hs⟩
  · obtain ⟨e, he, hem⟩ := hem.of_isSome hres
    simp [he, hl, releaseOffs, hem.eventType, hem.source, hem.device]
  · simp [hs, hl, releaseOffs]

/-- 1 if the device has an entry. -/
def armed (m : StreamingPid) (k : DeviceNameKey) : Nat := if (m.lookup k).isSome then 1 else 0

/-- A firing other than a streamon uses up the entry if it is a release that emits. -/
theorem releaseOffs_step (m : StreamingPid) {f : Firing} {k : DeviceNameKey}
    (hf : f.probe = .streamon → f.key ≠ some k) :
    (releaseOffs k.device (run.step m f).2).length + armed (run.step m f).1 k ≤ armed m k := by
  by_cases hk : f.key = some k
  · have hdel : armed (m.delete k) k = 0 := by simp [armed, BoundedMap.lookup_delete]
    rcases step_of_key m hk with ⟨hp, -⟩ | ⟨-, hs, hem⟩ | ⟨-, hl, hs, hem⟩ | ⟨-, -, hs⟩
    · exact absurd hk (hf hp)
    · have hnone : releaseOffs k.device (run.step m f).2 = [] := by
        have hne : cameraEventSourceIoctl ≠ cameraEventSourceFopRelease := by decide
        rcases hem with ⟨-, he⟩ | ⟨e, -, he, hem⟩
        · simp [he, releaseOffs]
        · simp [he, releaseOffs, hem.source, hne]
      simp [hnone, hs, hdel]
    · have hone : (releaseOffs k.device (run.step m f).2).length ≤ 1 := by
        refine (List.length_filter_le _ _).trans ?_
        rcases hem with ⟨-, he⟩ | ⟨e, -, he, -⟩ <;> simp [he]
      rw [hs, hdel]
      simpa [armed, hl] using hone
    · simp [hs, releaseOffs]
  · have hnone : releaseOffs k.device (run.step m f).2 = [] :=
      List.filter_eq_nil_iff.2 fun e he => by simp [device_ne_of_mem_step hk he]
    simp [hnone, armed, lookup_step_ne hk]

/-- Until the next streamon, the releases of a device emit at most once, and only if it had an
entry. -/
theorem releaseOffs_le (m : StreamingPid) {t : List Firing} {k : DeviceNameKey}
    (ht : ∀ f ∈ t, f.probe = .streamon → f.key ≠ some k) :
    (releaseOffs k.device (run.out m t)).length ≤ armed m k := by
  induction t generalizing m with
  | nil => simp [releaseOffs]
  | cons f t ih =>
    have hf := releaseOffs_step m (ht f (by simp))
    have ht := ih (run.step m f).1 fun g hg => ht g (by simp [hg])
    simp only [Mealy.out_cons, releaseOffs, List.filter_append, List.length_append] at hf ht ⊢
    omega

/-- **When a release emits.** In a run without failures, a release of process `p` on a device
submits a STREAM_OFF exactly if there was a streamon on the device and the last of its streamons,
streamoffs and emitting releases is a streamon of `p`. So between two streamons at most one release
emits, and none after a streamoff until the next streamon. -/
theorem release_submits_iff (t : List Firing) (hun : Unfailing t) (k : DeviceNameKey) :
    (∀ l f r, t = l ++ f :: r → f.probe = .fopRelease → f.key = some k →
      (releaseOffs k.device (submits l f) ≠ [] ↔
        (∃ s ∈ l, s.probe = .streamon ∧ s.key = some k) ∧
        ∃ g, (relevant k l).getLast? = some g ∧ g.probe = .streamon ∧ g.pid = f.pid)) ∧
    (∀ l m r, t = l ++ m ++ r → (∀ f ∈ m, f.probe = .streamon → f.key ≠ some k) →
      (releaseOffs k.device (run.out (streamingPid l) m)).length ≤ 1) ∧
    ∀ l f m r, t = l ++ f :: m ++ r → f.probe = .streamoff → f.key = some k →
      (∀ g ∈ m, g.probe = .streamon → g.key ≠ some k) →
      releaseOffs k.device (run.out (streamingPid (l ++ [f])) m) = [] := by
  refine ⟨fun l f r ht hp hk => ?_, fun l m r _ hm => ?_, fun l f m r _ hp hk hm => ?_⟩
  · have hl : Unfailing l := hun.of_prefix ⟨f :: r, ht.symm⟩
    rw [release_emits_iff hp hk (hun.reserved f (by simp [ht])), lookup_eq_owner hl, owner_eq_some]
    refine ⟨fun ⟨g, hg, hgp, hpid⟩ => ⟨⟨g, ?_⟩, g, hg, hgp, hpid⟩, And.right⟩
    obtain ⟨hmem, hgk⟩ := mem_relevant (List.mem_of_getLast? hg)
    exact ⟨hmem, hgp, hgk⟩
  · refine (releaseOffs_le _ hm).trans ?_
    unfold armed
    split <;> omega
  · have h0 : armed (streamingPid (l ++ [f])) k = 0 := by
      simp [armed, streamingPid_snoc, (step_streamoff _ hp hk).1, BoundedMap.lookup_delete]
    have := releaseOffs_le (streamingPid (l ++ [f])) hm
    exact List.length_eq_zero_iff.1 (by omega)

def video0 : DeviceNameKey := deviceNameKey ⟨[118, 105, 100, 101, 111, 48], by decide⟩

/-- A firing of process `pid` on `video0` that gets a zeroed slot. -/
def onVideo0 (probe : Probe) (pid : UInt32) : Firing where
  probe := probe
  file := some ⟨some ⟨[118, 105, 100, 101, 111, 48], by decide⟩⟩
  pidTgid := pid.toUInt64 <<< 32
  reserve := some ⟨0, 0, 0, .replicate 32 0⟩

theorem own_release_submits :
    releaseOffs video0.device (submits [onVideo0 .streamon 7] (onVideo0 .fopRelease 7)) ≠ [] :=
  ((release_submits_iff [onVideo0 .streamon 7, onVideo0 .fopRelease 7]
    (.of_length (by decide) (by decide)) video0).1 [_] _ [] rfl rfl rfl).2
    ⟨⟨_, List.mem_singleton_self _, rfl, rfl⟩, onVideo0 .streamon 7, rfl, rfl, by decide⟩

/-! ## Other processes -/

/-- All streamons on the device are by process `p`. -/
def OnlyStreamer (k : DeviceNameKey) (p : UInt32) (t : List Firing) : Prop :=
  ∀ f ∈ t, f.probe = .streamon → f.key = some k → f.pid = p

theorem lookup_onlyStreamer {k : DeviceNameKey} {p q : UInt32} {t : List Firing}
    (ht : OnlyStreamer k p t) (hq : (streamingPid t).lookup k = some q) : q = p := by
  induction t using List.reverseRecOn with
  | nil => simp at hq
  | append_singleton t f ih =>
    have ih := ih fun g hg => ht g (List.mem_append_left _ hg)
    rw [streamingPid_snoc] at hq
    by_cases hk : f.key = some k
    · rcases step_of_key (streamingPid t) hk with
          ⟨hp, hs, -⟩ | ⟨-, hs, -⟩ | ⟨-, -, hs, -⟩ | ⟨-, -, hs⟩ <;> rw [hs] at hq
      · rw [BoundedMap.lookup_set] at hq
        split at hq
        · exact Option.some.inj hq ▸ ht f (by simp) hp hk
        · exact ih hq
      · simp [BoundedMap.lookup_delete] at hq
      · simp [BoundedMap.lookup_delete] at hq
      · exact ih hq
    · exact ih (by rwa [lookup_step_ne hk] at hq)

/-- **What other processes can do** to a device that only `p` streams from: their releases and
streamons submit nothing about it and keep its entry. A streamoff on it, whoever calls it, deletes
the entry and submits a STREAM_OFF. -/
theorem foreign_firing (t : List Firing) (k : DeviceNameKey) (p : UInt32)
    (ht : OnlyStreamer k p t) (l : List Firing) (f : Firing) (r : List Firing)
    (hsplit : t = l ++ f :: r) :
    (f.pid ≠ p → ¬ (f.probe = .streamoff ∧ f.key = some k) →
      (∀ e ∈ submits l f, e.device ≠ k.device) ∧
      (streamingPid (l ++ [f])).lookup k = (streamingPid l).lookup k) ∧
    (f.probe = .streamoff → f.key = some k →
      (streamingPid (l ++ [f])).lookup k = none ∧
      (f.reserve.isSome → ∃ e, submits l f = [e] ∧
        Emitted e k cameraEventTypeStreamOff cameraEventSourceIoctl f.pid)) := by
  subst hsplit
  have hl : OnlyStreamer k p l := fun g hg => ht g (List.mem_append_left _ hg)
  refine ⟨fun hpid hno => ?_, fun hp hk => ?_⟩
  · by_cases hk : f.key = some k
    · have hquiet : run.step (streamingPid l) f = (streamingPid l, []) := by
        rcases step_of_key (streamingPid l) hk with ⟨hp, -⟩ | ⟨hp, -⟩ | ⟨-, hlk, -⟩ | ⟨-, -, hs⟩
        · exact absurd (ht f (by simp) hp hk) hpid
        · exact absurd ⟨hp, hk⟩ hno
        · exact absurd (lookup_onlyStreamer hl hlk) hpid
        · exact hs
      simp [submits, streamingPid_snoc, hquiet]
    · exact ⟨fun e he => device_ne_of_mem_step hk he, by
        rw [streamingPid_snoc, lookup_step_ne hk]⟩
  · rw [streamingPid_snoc]
    obtain ⟨hs, hem⟩ := step_streamoff (streamingPid l) hp hk
    exact ⟨by simp [hs, BoundedMap.lookup_delete], hem.of_isSome⟩

theorem foreign_release_silent :
    (streamingPid [onVideo0 .streamon 7, onVideo0 .fopRelease 8]).lookup video0 =
      (streamingPid [onVideo0 .streamon 7]).lookup video0 :=
  ((foreign_firing [onVideo0 .streamon 7, onVideo0 .fopRelease 8] video0 7
    (by unfold OnlyStreamer; decide) [_] (onVideo0 .fopRelease 8) [] rfl).1 (by decide)
    (by decide)).2

/-- No firing by a process other than `p` submits a STREAM_OFF of the device or touches its
entry. -/
def ForeignSilent (t : List Firing) (k : DeviceNameKey) (p : UInt32) : Prop :=
  ∀ l f r, t = l ++ f :: r → f.pid ≠ p →
    (∀ e ∈ submits l f, e.device = k.device → e.eventType ≠ cameraEventTypeStreamOff) ∧
    (streamingPid (l ++ [f])).lookup k = (streamingPid l).lookup k

/-- The streamoff of another process is not looked up in `streaming_pid`. -/
theorem foreign_streamoff_not_silent :
    OnlyStreamer video0 7 [onVideo0 .streamon 7, onVideo0 .streamoff 8] ∧
    ¬ ForeignSilent [onVideo0 .streamon 7, onVideo0 .streamoff 8] video0 7 := by
  refine ⟨by unfold OnlyStreamer; decide, fun h => ?_⟩
  have := (h [onVideo0 .streamon 7] (onVideo0 .streamoff 8) [] rfl (by decide)).2
  exact absurd this (by decide)

end Bpf
